import ConstExpr.Proofs.Text.Tokens
import ConstExpr.Text.Serialized

/-!
# Decoding what is written

A decoder reads a datum back when it makes the term that was written, exactly where there are as
many levels as the datum has (`ReadsBack`). Levels are counted as the decoders of terms take them
(`Datum.termLevels`), so nothing is assumed about how deep a term is: a term that is too deep is not
read at all. The combinators of decoders keep this property, each by a lemma about one bracket.
-/
namespace ConstExpr

namespace Datum

/-- The levels of a bracket, without those of its items. -/
def bracketLevels {β : Type} (items : List β) : Nat := if items.isEmpty then 1 else 2

/-- The levels of parentheses around one item: an alternative and what it holds, or what stands
behind `Some` or in a structure without labels. -/
def groupLevels (name : Option String) : Nat := if name = none ∨ name = some "Some" then 1 else 2

mutual

/-- The number of levels that a datum has inside one another when it is decoded as the term that it
was written for. A name that stands alone has none, and the name of an alternative has two. -/
def termLevels : Datum → Nat
  | word name => if standsAlone name then 0 else 2
  | number .. | text _ | foreign | unit => 0
  | joint item => item.termLevels
  | list items => bracketLevels items + deepestItem items
  | map entries => bracketLevels entries + deepestEntry entries
  | tuple name items => groupLevels name + deepestItem items
  | record name fields =>
    (if name.isSome then 1 else 0) + (bracketLevels fields + deepestField fields)

/-- The levels of the deepest item. -/
def deepestItem : List Datum → Nat
  | [] => 0
  | item :: items => max item.termLevels (deepestItem items)

/-- The levels of the deepest key or item of an entry. -/
def deepestEntry : List (Datum × Datum) → Nat
  | [] => 0
  | (key, item) :: entries => max (max key.termLevels item.termLevels) (deepestEntry entries)

/-- The levels of the deepest item of a field. -/
def deepestField : List (String × Datum) → Nat
  | [] => 0
  | (_, item) :: fields => max item.termLevels (deepestField fields)

end

end Datum

open Datum

section Levels

variable {α β : Type} {needed levels : Nat} {term : α}

/-- The term, where there are as many levels as needed. -/
def onlyWithin (needed levels : Nat) (term : α) : Option α :=
  if needed ≤ levels then some term else none

/-- What is made of the term needs no more levels. -/
theorem map_onlyWithin (make : α → β) :
    make <$> onlyWithin needed levels term = onlyWithin needed levels (make term) := by
  unfold onlyWithin
  split <;> rfl

/-- What goes on inside of the levels needs its own levels, too. -/
theorem onlyWithin_below {next : α → Option β} {result : β} {more : Nat}
    (goes : next term = onlyWithin more (levels - needed) result) :
    (onlyWithin needed levels term).bind next = onlyWithin (needed + more) levels result := by
  unfold onlyWithin at goes ⊢
  split
  · rw [Option.bind_some, goes]
    congr 1
    exact propext (by omega)
  · rw [if_neg (by omega)]
    rfl

/-- What goes on beside the levels needs its own levels, too. -/
theorem onlyWithin_beside {next : α → Option β} {result : β} {more : Nat}
    (goes : next term = onlyWithin more levels result) :
    (onlyWithin needed levels term).bind next = onlyWithin (max needed more) levels result := by
  unfold onlyWithin at goes ⊢
  split
  · rw [Option.bind_some, goes]
    congr 1
    exact propext (by omega)
  · rw [if_neg (by omega)]
    rfl

end Levels

section Decoders

variable {α β : Type} {limit : Nat}

/-- From the datum, which is of the kind that terms are written as, the decoder makes the term,
exactly where there are as many levels as the datum has; of greater limits than the given one
nothing is said. -/
structure ReadsBack (limit : Nat) (decode : Decoder α) (datum : Datum) (term : α) : Prop where
  /-- The datum is of the kind that terms are written as. -/
  written : datum.IsWritten
  /-- The term is made where there are enough levels, and nothing where there are not. -/
  decoded : ∀ levels ≤ limit, decode ⟨[], levels⟩ datum = onlyWithin datum.termLevels levels term

/-- From the fields, all of which belong to the term, the decoder makes the term. -/
structure FieldsReadBack (limit : Nat) (decode : FieldDecoder α) (fields : Fields) (term : α) :
    Prop where
  /-- The labels are names. -/
  labels : ∀ field ∈ fields, IsName field.1
  /-- The items are of the kind that terms are written as. -/
  written : ∀ field ∈ fields, field.2.IsWritten
  /-- The term is made where there are enough levels, and no field is left. -/
  decoded : ∀ levels ≤ limit,
    decode ⟨[], levels⟩ fields = onlyWithin (deepestField fields) levels (term, [])

/-- A lower limit says less. -/
theorem ReadsBack.mono {decode : Decoder α} {datum : Datum} {term : α} {lower : Nat}
    (reads : ReadsBack limit decode datum term) (less : lower ≤ limit) :
    ReadsBack lower decode datum term :=
  ⟨reads.written, fun levels within => reads.decoded levels (Nat.le_trans within less)⟩

/-- What is read back within one term inside another or more is also read back within none, where
nothing is read, if the outermost one takes a level. -/
theorem ReadsBack.within {decode : Nat → Decoder α} {datum : Datum} {term : α}
    (reads : ∀ depth, ReadsBack (depth + 1) (decode (depth + 1)) datum term)
    (stops : decode 0 ⟨[], 0⟩ datum = decode 1 ⟨[], 0⟩ datum) (depth : Nat) :
    ReadsBack depth (decode depth) datum term := by
  cases depth with
  | succ depth => exact reads depth
  | zero =>
    refine ⟨(reads 0).written, fun levels none => ?_⟩
    rw [Nat.le_zero.mp none, stops, (reads 0).decoded 0 (Nat.zero_le 1)]

/-- What is read back within as many terms inside one another as there may be levels is read back
within those at its place. -/
theorem ReadsBack.atPlace {decode : Nat → Decoder α} {datum : Datum} {term : α}
    (reads : ∀ depth, ReadsBack depth (decode depth) datum term) :
    ReadsBack limit (fun place => decode place.levels place) datum term :=
  ⟨(reads 0).written, fun levels _ => (reads levels).decoded levels (Nat.le_refl levels)⟩

/-- What is made of a term is read back when the term is. -/
theorem ReadsBack.map {decode : Decoder α} {datum : Datum} {term : α} (make : α → β)
    (reads : ReadsBack limit decode datum term) :
    ReadsBack limit (fun place datum => make <$> decode place datum) datum (make term) :=
  ⟨reads.written, fun levels within => by rw [reads.decoded levels within, map_onlyWithin]⟩

/-- A natural number is read back below its bound. -/
theorem readsBack_below {bound value : Nat} (small : value < bound) (wide : bound ≤ twoPow 128) :
    ReadsBack limit (.below bound) (.ofNat value) value := by
  refine ⟨.number (decide_eq_true (Nat.lt_of_lt_of_le small wide)), fun levels _ => ?_⟩
  exact if_pos small

/-- A size is read back. -/
theorem readsBack_size {value : Nat} (small : value < sizeBound) :
    ReadsBack limit .size (.ofNat value) value :=
  readsBack_below small (by decide)

/-- An integer is read back. -/
theorem readsBack_integer {value : Int} (fits : IsMachineWord value) :
    ReadsBack limit .integer (.ofInt value) value := by
  have wide : twoPow 128 = 2 * twoPow 127 := by decide
  obtain ⟨least, greatest⟩ := fits
  have fits : IsMachineWord value := ⟨least, greatest⟩
  unfold ofInt
  split
  · next negative =>
    refine ⟨.number (decide_eq_true (by omega)), fun levels _ => ?_⟩
    have same : -(value.natAbs : Int) = value := by omega
    simp only [Decoder.integer, if_true, same, fits]
    exact (if_pos (Nat.zero_le levels)).symm
  · next natural =>
    refine ⟨.number (decide_eq_true (by omega)), fun levels _ => ?_⟩
    have same : (value.natAbs : Int) = value := by omega
    simp only [Decoder.integer, reduceCtorEq, if_false, same, fits, if_true]
    exact (if_pos (Nat.zero_le levels)).symm

/-- A bracket takes at least one level. -/
theorem sub_bracketLevels_le (items : List β) {levels : Nat} (within : levels ≤ limit) :
    levels - bracketLevels items ≤ limit - 1 := by
  unfold bracketLevels
  split <;> omega

/-- The place in a bracket is one with the levels that are left. -/
theorem insideBracket?_eq (items : List β) (levels : Nat) :
    (Place.mk [] levels).insideBracket? items =
      onlyWithin (bracketLevels items) levels ⟨[], levels - bracketLevels items⟩ := rfl

/-- A list is read back when its items are. -/
theorem ReadsBack.list {decode : Decoder α} {write : α → Datum} {items : List α}
    (each : ∀ item ∈ items, ReadsBack (limit - 1) decode (write item) item) :
    ReadsBack limit (.list decode) (.list (items.map write)) items := by
  have inside {levels : Nat} (within : levels ≤ limit - 1) :
      (items.map write).mapM (decode ⟨[], levels⟩) =
        onlyWithin (deepestItem (items.map write)) levels items := by
    induction items with
    | nil => rfl
    | cons item items ih =>
      obtain ⟨first, others⟩ := List.forall_mem_cons.mp each
      rw [List.map_cons, List.mapM_cons, first.decoded levels within]
      refine onlyWithin_beside ?_
      rw [ih others]
      exact (bind_pure_comp _ _).trans (map_onlyWithin _)
  refine ⟨.list (List.forall_mem_map.mpr fun item member => (each item member).written),
    fun levels within => onlyWithin_below (inside (sub_bracketLevels_le _ within))⟩

/-- The entries of a map are read back when their keys and items are. -/
theorem ReadsBack.entries {decode : Decoder α} {decode' : Decoder β} {write : α → Datum}
    {write' : β → Datum} {entries : List (α × β)}
    (keys : ∀ entry ∈ entries, ReadsBack (limit - 1) decode (write entry.1) entry.1)
    (items : ∀ entry ∈ entries, ReadsBack (limit - 1) decode' (write' entry.2) entry.2) :
    ReadsBack limit (.entries decode decode')
      (.map (entries.map fun entry => (write entry.1, write' entry.2))) entries := by
  have inside {levels : Nat} (within : levels ≤ limit - 1) :
      (entries.map fun entry => (write entry.1, write' entry.2)).mapM
          (fun entry => do
            return (← decode ⟨[], levels⟩ entry.1, ← decode' ⟨[], levels⟩ entry.2)) =
        onlyWithin (deepestEntry (entries.map fun entry => (write entry.1, write' entry.2))) levels
          entries := by
    induction entries with
    | nil => rfl
    | cons entry entries ih =>
      obtain ⟨key, otherKeys⟩ := List.forall_mem_cons.mp keys
      obtain ⟨item, otherItems⟩ := List.forall_mem_cons.mp items
      have one : (do return (← decode ⟨[], levels⟩ (write entry.1),
          ← decode' ⟨[], levels⟩ (write' entry.2)) : Option (α × β)) =
          onlyWithin (max (write entry.1).termLevels (write' entry.2).termLevels) levels entry := by
        rw [key.decoded levels within]
        refine onlyWithin_beside ?_
        rw [item.decoded levels within]
        exact (bind_pure_comp _ _).trans (map_onlyWithin _)
      rw [List.map_cons, List.mapM_cons, one]
      refine onlyWithin_beside ?_
      rw [ih otherKeys otherItems]
      exact (bind_pure_comp _ _).trans (map_onlyWithin _)
  exact ⟨.map (List.forall_mem_map.mpr fun entry member => (keys entry member).written)
      (List.forall_mem_map.mpr fun entry member => (items entry member).written),
    fun levels within => onlyWithin_below (inside (sub_bracketLevels_le _ within))⟩

/-- What stands in parentheses is read back inside of the level that these are. -/
theorem ReadsBack.below {decode : Decoder α} {datum : Datum} {term : α}
    (held : ReadsBack (limit - 1) decode datum term) {name : Option String} {levels : Nat}
    (within : levels ≤ limit) (group : groupLevels name = 1) :
    ((Place.mk [] levels).inside? 1).bind (fun inside => decode inside datum) =
      onlyWithin (Datum.tuple name [datum]).termLevels levels term := by
  rw [termLevels, group, deepestItem, deepestItem, Nat.max_zero]
  exact onlyWithin_below (held.decoded (levels - 1) (by omega))

/-- Nothing is read back from the word for it. -/
theorem readsBack_none (decode : Decoder α) :
    ReadsBack limit (.option decode) (.word "None") none :=
  ⟨.word (by decide) (by decide), fun levels _ => (if_pos (Nat.zero_le levels)).symm⟩

/-- What may be missing is read back where it is there. -/
theorem ReadsBack.option {decode : Decoder α} {datum : Datum} {term : α}
    (held : ReadsBack (limit - 1) decode datum term) :
    ReadsBack limit (.option decode) (.wrap "Some" datum) (some term) := by
  refine ⟨.wrap (fun word same => ?_) held.written, fun levels within => ?_⟩
  · obtain rfl := Option.some.inj same
    exact ⟨by decide, by decide⟩
  · rw [wrap, ← (held.map some).below within (if_pos (.inr rfl))]
    exact congrArg (Option.bind _) (funext fun inside => bind_pure_comp some _)

/-- What stands in a structure without labels is read back. -/
theorem ReadsBack.wrapped {decode : Decoder α} {datum : Datum} {term : α}
    (held : ReadsBack (limit - 1) decode datum term) (name : String) :
    ReadsBack limit (.wrapped name decode) (.tuple none [datum]) term := by
  refine ⟨.wrap (fun _ none => nomatch none) held.written, fun levels within => ?_⟩
  rw [← held.below within (if_pos (.inl rfl))]
  rfl

/-- All fields of a group are decoded inside of its bracket. -/
theorem FieldsReadBack.decodeAll {decode : FieldDecoder α} {fields : Fields} {term : α}
    (reads : FieldsReadBack (limit - 1) decode fields term) {levels : Nat}
    (within : levels ≤ limit) :
    FieldDecoder.decodeAll decode ⟨[], levels⟩ fields =
      onlyWithin (bracketLevels fields + deepestField fields) levels term := by
  rw [FieldDecoder.decodeAll, insideBracket?_eq]
  refine onlyWithin_below ?_
  rw [reads.decoded _ (sub_bracketLevels_le fields within)]
  unfold onlyWithin
  split <;> rfl

/-- A structure of labelled fields is read back when its fields are. -/
theorem ReadsBack.record {decode : FieldDecoder α} {fields : Fields} {term : α}
    (reads : FieldsReadBack (limit - 1) decode fields term) (some_ : fields ≠ []) (name : String) :
    ReadsBack limit (.record name decode) (.record none fields) term := by
  refine ⟨.record (fun _ none => nomatch none) some_ reads.labels reads.written,
    fun levels within => ?_⟩
  rw [termLevels, Option.isSome_none, if_neg Bool.false_ne_true, Nat.zero_add,
    ← reads.decodeAll within]
  rfl

/-- No fields are left behind the last one. -/
theorem fieldsReadBack_pure (term : α) : FieldsReadBack limit (pure term) [] term :=
  ⟨List.forall_mem_nil _, List.forall_mem_nil _, fun levels _ => (if_pos (Nat.zero_le levels)).symm⟩

/-- The fields go on behind one that is read back, whose label is not repeated. -/
theorem FieldsReadBack.optional {decode : Decoder α} {datum : Datum} {term : α} {label : String}
    {fields : Fields} {next : Option α → FieldDecoder β} {result : β}
    (others : FieldsReadBack limit (next (some term)) fields result)
    (item : ReadsBack limit decode datum term) (proper : IsName label)
    (distinct : ∀ field ∈ fields, field.1 ≠ label) :
    FieldsReadBack limit (.optional label decode >>= next) ((label, datum) :: fields) result := by
  refine ⟨List.forall_mem_cons.mpr ⟨proper, others.labels⟩,
    List.forall_mem_cons.mpr ⟨item.written, others.written⟩, fun levels within => ?_⟩
  have here : ((label, datum) :: fields).filter (fun field => field.1 == label) =
      [(label, datum)] := by
    rw [List.filter_cons_of_pos (by simp), List.filter_eq_nil_iff.mpr]
    exact fun field member => Bool.eq_false_iff.mp (beq_false_of_ne (distinct field member))
  have left : ((label, datum) :: fields).filter (fun field => field.1 != label) = fields := by
    rw [List.filter_cons_of_neg (by simp), List.filter_eq_self.mpr]
    exact fun field member => bne_iff_ne.mpr (distinct field member)
  change (FieldDecoder.optional label decode ⟨[], levels⟩ ((label, datum) :: fields)).bind
    (fun found => next found.1 ⟨[], levels⟩ found.2) = _
  rw [FieldDecoder.optional, here, left]
  change ((fun term => (some term, fields)) <$> decode ⟨[], levels⟩ datum).bind _ = _
  rw [item.decoded levels within, map_onlyWithin]
  exact onlyWithin_beside (others.decoded levels within)

/-- The fields go on behind one that has to be there. -/
theorem FieldsReadBack.required {decode : Decoder α} {datum : Datum} {term : α} {label : String}
    {fields : Fields} {next : α → FieldDecoder β} {result : β}
    (others : FieldsReadBack limit (next term) fields result)
    (item : ReadsBack limit decode datum term) (proper : IsName label)
    (distinct : ∀ field ∈ fields, field.1 ≠ label) :
    FieldsReadBack limit (.required label decode >>= next) ((label, datum) :: fields) result := by
  rw [FieldDecoder.required, bind_assoc]
  refine FieldsReadBack.optional ?_ item proper distinct
  rwa [pure_bind]

/-- The fields go on behind one that may be missing. -/
theorem FieldsReadBack.defaulted {decode : Decoder α} {datum : Datum} {term : α} {label : String}
    {fields : Fields} {next : α → FieldDecoder β} {result : β}
    (others : FieldsReadBack limit (next term) fields result)
    (item : ReadsBack limit decode datum term) (proper : IsName label)
    (distinct : ∀ field ∈ fields, field.1 ≠ label) (default : α) :
    FieldsReadBack limit (.defaulted label default decode >>= next) ((label, datum) :: fields)
      result := by
  rw [FieldDecoder.defaulted, bind_assoc]
  refine FieldsReadBack.optional ?_ item proper distinct
  rwa [pure_bind]

/-- What is made of the term of some fields is read back from them. -/
theorem FieldsReadBack.map {decode : FieldDecoder α} {fields : Fields} {term : α}
    (reads : FieldsReadBack limit decode fields term) (make : α → β) :
    FieldsReadBack limit (make <$> decode) fields (make term) := by
  refine ⟨reads.labels, reads.written, fun levels within => ?_⟩
  change (decode ⟨[], levels⟩ fields).bind (fun found => some (make found.1, found.2)) = _
  rw [reads.decoded levels within]
  exact (bind_pure_comp _ _).trans
    (map_onlyWithin fun found : α × Fields => (make found.1, found.2))

end Decoders

section Choices

variable {α β : Type} {limit : Nat} {name : String} {next : Choice → Option α}

/-- The name of an alternative. -/
def IsAlternative (name : String) : Prop := NamesGroup name ∧ name ≠ "Some"

instance (name : String) : Decidable (IsAlternative name) :=
  inferInstanceAs (Decidable ((IsName name ∧ _ = false) ∧ _))

/-- The name that a word or a group begins with. -/
def Datum.name? : Datum → Option String
  | .word name | .tuple (some name) _ | .record (some name) _ => some name
  | _ => none

/-- An alternative is a level around what goes on with it. -/
theorem at?_bind {datum : Datum} {term : α} {needed levels : Nat}
    (named : datum.name? = some name)
    (goes : next ⟨name, ⟨[], levels - 1⟩, datum⟩ = onlyWithin needed (levels - 1) term) :
    (Choice.at? ⟨[], levels⟩ datum).bind next = onlyWithin (1 + needed) levels term := by
  have found : Choice.at? ⟨[], levels⟩ datum =
      onlyWithin 1 levels ⟨name, ⟨[], levels - 1⟩, datum⟩ := by
    unfold Datum.name? at named
    split at named
    all_goals first
      | contradiction
      | (cases named
         exact (bind_pure_comp _ _).trans (map_onlyWithin fun inside => Choice.mk _ inside _))
  rw [found]
  exact onlyWithin_below goes

/-- An alternative that holds nothing is read back from its name. -/
theorem readsBack_nothing {term : α} (proper : IsAlternative name)
    (selects : ∀ levels datum, next ⟨name, ⟨[], levels⟩, datum⟩ =
      Choice.nothing ⟨name, ⟨[], levels⟩, datum⟩ term) :
    ReadsBack limit (fun place datum => (Choice.at? place datum).bind next) (.word name) term := by
  obtain ⟨⟨isName, open_⟩, different⟩ := proper
  refine ⟨.word isName different, fun levels within => ?_⟩
  rw [termLevels, open_, if_neg Bool.false_ne_true]
  change _ = onlyWithin (1 + 1) levels term
  refine at?_bind rfl ?_
  rw [selects]
  exact map_onlyWithin fun _ => term

/-- An alternative with one item is read back when the item is. -/
theorem ReadsBack.item {decode : Decoder α} {held : Datum} {term : α}
    (reads : ReadsBack (limit - 1) decode held term) (proper : IsAlternative name)
    (selects : ∀ levels datum, next ⟨name, ⟨[], levels⟩, datum⟩ =
      Choice.item ⟨name, ⟨[], levels⟩, datum⟩ decode) :
    ReadsBack limit (fun place datum => (Choice.at? place datum).bind next) (.wrap name held)
      term := by
  obtain ⟨named, different⟩ := proper
  refine ⟨.wrap (fun word same => Option.some.inj same ▸ named) reads.written,
    fun levels within => ?_⟩
  have two : groupLevels (some name) = 1 + 1 := by simp [groupLevels, different]
  rw [wrap, termLevels, two, deepestItem, deepestItem, Nat.max_zero, Nat.add_assoc]
  refine at?_bind rfl ?_
  rw [selects]
  have inside : levels - 1 - 1 ≤ limit - 1 := by omega
  exact onlyWithin_below (reads.decoded _ inside)

/-- What is made of an item can be made where the item is decoded. -/
theorem Choice.map_item (choice : Choice) (decode : Decoder β) (make : β → α) :
    make <$> choice.item decode = choice.item fun place held => make <$> decode place held := by
  unfold Choice.item
  split
  · exact map_bind make _ _
  · rfl

/-- What is made of an item is read back when the item is. -/
theorem ReadsBack.making {decode : Decoder β} {held : Datum} {term : β}
    (reads : ReadsBack (limit - 1) decode held term) (make : β → α) (proper : IsAlternative name)
    (selects : ∀ levels datum, next ⟨name, ⟨[], levels⟩, datum⟩ =
      make <$> Choice.item ⟨name, ⟨[], levels⟩, datum⟩ decode) :
    ReadsBack limit (fun place datum => (Choice.at? place datum).bind next) (.wrap name held)
      (make term) :=
  (reads.map make).item proper fun levels datum =>
    (selects levels datum).trans (Choice.map_item _ decode make)

/-- An alternative with a structure of labelled fields is read back when these are. -/
theorem ReadsBack.holding {decode : FieldDecoder α} {fields : Fields} {term : α} {held : String}
    (reads : FieldsReadBack (limit - 1 - 1) decode fields term) (some_ : fields ≠ [])
    (proper : IsAlternative name)
    (selects : ∀ levels datum, next ⟨name, ⟨[], levels⟩, datum⟩ =
      Choice.record ⟨name, ⟨[], levels⟩, datum⟩ held decode) :
    ReadsBack limit (fun place datum => (Choice.at? place datum).bind next)
      (.wrap name (.record none fields)) term :=
  (ReadsBack.record reads some_ held).item proper selects

/-- An alternative with labelled fields is read back when these are. -/
theorem ReadsBack.fields {decode : FieldDecoder α} {fields : Fields} {term : α}
    (reads : FieldsReadBack (limit - 1) decode fields term) (some_ : fields ≠ [])
    (proper : IsAlternative name)
    (selects : ∀ levels datum, next ⟨name, ⟨[], levels⟩, datum⟩ =
      Choice.fields ⟨name, ⟨[], levels⟩, datum⟩ decode) :
    ReadsBack limit (fun place datum => (Choice.at? place datum).bind next)
      (.record (some name) fields) term := by
  obtain ⟨named, different⟩ := proper
  refine ⟨.record (fun word same => Option.some.inj same ▸ ⟨named, different⟩) some_ reads.labels
    reads.written, fun levels within => ?_⟩
  have decoded := reads.decodeAll (Nat.le_trans (Nat.sub_le levels 1) within)
  rw [termLevels, Option.isSome_some, if_pos rfl]
  refine at?_bind rfl ?_
  rw [selects, ← decoded]
  have proper : isNamed name (some name) = true := beq_self_eq_true name
  simp only [Choice.fields, fields?, proper, if_true]
  rfl

end Choices

end ConstExpr
