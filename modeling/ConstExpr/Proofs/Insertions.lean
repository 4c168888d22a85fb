import ConstExpr.Proofs.Bindings
import Mathlib.Data.List.Dedup

/-!
# Runs of insertions

A substitution that is put together by insertions, of single arguments and of packs, keeps the first
binding of each parameter, and refuses all later ones. Its entries stay in the strict order of their
parameters (`Substitution.IsOrdered`), and substitutions in order are equal when they bind the same
(`Substitution.IsOrdered.ext`), so only the first insertion of each parameter matters, and not the
order in which different parameters are bound (`insert_first_wins`).
-/
namespace ConstExpr

/-- A request to bind a parameter. -/
inductive Insertion where
  /-- Binds a parameter to one argument. -/
  | single (parameter : ParameterId) (argument : TemplateArgument)
  /-- Binds a parameter pack to its arguments. -/
  | pack (parameter : ParameterId) (arguments : List TemplateArgument)

namespace Insertion

/-- The parameter to be bound. -/
def parameter : Insertion → ParameterId
  | single parameter _ | pack parameter _ => parameter

/-- What the parameter is to be bound to. -/
def bound : Insertion → Bound
  | single _ argument => .single argument
  | pack _ arguments => .pack arguments

/-- Inserts into a substitution: the refusal, if there is one, and the substitution afterwards. -/
def insertInto (insertion : Insertion) (map : Substitution) : Option Collision × Substitution :=
  match map.bind insertion.parameter insertion.bound with
  | .ok extended => (none, extended)
  | .error collision => (some collision, map)

/-- What the first insertion of a parameter binds it to. -/
def first? (insertions : List Insertion) (parameter : ParameterId) : Option Bound :=
  (insertions.find? fun insertion => insertion.parameter == parameter).map bound

end Insertion

namespace Substitution

/-- The substitution after insertions one after the other. -/
def insertAll (map : Substitution) (insertions : List Insertion) : Substitution :=
  insertions.foldl (fun map insertion => (insertion.insertInto map).2) map

end Substitution

/-- The argument that replaces a parameter that is bound so, at an offset. -/
def Bound.argument? (offset : Option Nat) : Bound → Option TemplateArgument
  | single argument => some argument
  | pack arguments => offset.bind fun place => arguments[place]?

/-- The arguments of a pack. -/
def Bound.pack? : Bound → Option (List TemplateArgument)
  | single _ => none
  | pack arguments => some arguments

section Place

variable {parameter : ParameterId} {bound : Bound} {entries : List (ParameterId × Bound)}

namespace Substitution

/-- Placing an entry adds it. -/
theorem place_perm (entry : ParameterId × Bound) :
    (place entry entries).Perm (entry :: entries) := by
  induction entries with
  | nil => exact .refl _
  | cons head rest ih =>
    rw [place]
    split
    · exact .refl _
    · exact (ih.cons head).trans (.swap entry head rest)

/-- A parameter that is looked up behind other ones is not among them. -/
theorem ne_of_lookup_eq_none (absent : entries.lookup parameter = none)
    {entry : ParameterId × Bound} (member : entry ∈ entries) : entry.1 ≠ parameter :=
  fun same => bne_iff_ne.mp (List.lookup_eq_none_iff.mp absent entry member) same.symm

/-- The first entry is found for its parameter, and what stands behind it for all others. -/
theorem lookup_entry (other : ParameterId) : ((parameter, bound) :: entries).lookup other =
    if other = parameter then some bound else entries.lookup other := by
  by_cases same : other = parameter
  · rw [List.lookup_cons, same, beq_self_eq_true, if_pos rfl]
  · rw [List.lookup_cons, beq_false_of_ne same, if_neg same]

/-- An entry for a parameter that had none is found, and all others are found as before. -/
theorem lookup_place (absent : entries.lookup parameter = none) (other : ParameterId) :
    (place (parameter, bound) entries).lookup other =
      if other = parameter then some bound else entries.lookup other := by
  induction entries with
  | nil => exact lookup_entry other
  | cons head rest ih =>
    obtain ⟨key, value⟩ := head
    have apart : key ≠ parameter := ne_of_lookup_eq_none absent List.mem_cons_self
    have behind : rest.lookup parameter = none := by
      rwa [lookup_entry, if_neg apart.symm] at absent
    rw [place]
    split
    · exact lookup_entry other
    · rw [lookup_entry, lookup_entry, ih behind]
      by_cases same : other = key
      · rw [if_pos same, if_pos same, if_neg (same ▸ apart)]
      · rw [if_neg same, if_neg same]

/-- The entries stand in the strict order of their parameters. -/
def IsOrdered (map : Substitution) : Prop :=
  map.entries.Pairwise fun first second => compare first.1 second.1 = .lt

/-- An entry is placed in order. -/
theorem place_ordered
    (ordered : entries.Pairwise fun first second => compare first.1 second.1 = .lt)
    (absent : entries.lookup parameter = none) :
    (place (parameter, bound) entries).Pairwise fun first second =>
      compare first.1 second.1 = .lt := by
  induction entries with
  | nil => exact List.pairwise_singleton _ _
  | cons head rest ih =>
    obtain ⟨first, others⟩ := List.pairwise_cons.mp ordered
    have apart : head.1 ≠ parameter := ne_of_lookup_eq_none absent List.mem_cons_self
    have behind : rest.lookup parameter = none := by
      rwa [lookup_entry, if_neg apart.symm] at absent
    rw [place]
    split
    · next less =>
      have less : compare parameter head.1 = .lt := eq_of_beq less
      refine List.pairwise_cons.mpr ⟨List.forall_mem_cons.mpr ⟨less, fun entry member => ?_⟩,
        ordered⟩
      exact ParameterId.compare_trans less (first entry member)
    · next notLess =>
      have notLess : compare parameter head.1 ≠ .lt := fun less => notLess (beq_iff_eq.mpr less)
      have greater : compare head.1 parameter = .lt :=
        ParameterId.compare_total apart notLess
      refine List.pairwise_cons.mpr ⟨fun entry member => ?_, ih others behind⟩
      rcases List.mem_cons.mp ((place_perm _).mem_iff.mp member) with rfl | old
      · exact greater
      · exact first entry old

end Substitution

end Place

namespace Substitution

variable {map other : Substitution} {parameter : ParameterId} {bound : Bound}

/-- The entries of a substitution in order are what it binds. -/
theorem IsOrdered.mem_iff (ordered : map.IsOrdered) :
    (parameter, bound) ∈ map.entries ↔ map.binding? parameter = some bound := by
  rw [binding?, List.lookup_eq_some_iff]
  constructor
  · intro member
    obtain ⟨before, after, split⟩ := List.append_of_mem member
    refine ⟨before, after, split, fun entry earlier => bne_iff_ne.mpr fun same => ?_⟩
    rw [IsOrdered, split] at ordered
    have less := (List.pairwise_append.mp ordered).2.2 entry earlier _ List.mem_cons_self
    exact ParameterId.compare_irrefl (same ▸ less)
  · rintro ⟨before, after, split, -⟩
    exact split ▸ List.mem_append_cons_self

/-- A substitution in order lists no parameter twice. -/
theorem IsOrdered.nodup (ordered : map.IsOrdered) : (map.entries.map Prod.fst).Nodup := by
  rw [List.nodup_iff_pairwise_ne, List.pairwise_map]
  refine ordered.imp fun {first second} less same => ?_
  rw [same] at less
  exact ParameterId.compare_irrefl less

/-- Substitutions in order are equal when they bind the same. -/
theorem IsOrdered.ext (ordered : map.IsOrdered) (ordered' : other.IsOrdered)
    (same : ∀ parameter, map.binding? parameter = other.binding? parameter) : map = other := by
  have perm : map.entries.Perm other.entries := by
    refine (List.perm_ext_iff_of_nodup (.of_map _ ordered.nodup) (.of_map _ ordered'.nodup)).mpr ?_
    rintro ⟨parameter, bound⟩
    rw [ordered.mem_iff, ordered'.mem_iff, same]
  have entries : map.entries = other.entries :=
    perm.eq_of_pairwise (fun first second _ _ less greater =>
      absurd (ParameterId.compare_trans less greater) ParameterId.compare_irrefl) ordered ordered'
  cases map
  cases other
  exact congrArg mk entries

/-- The argument that replaces a parameter is read off its binding. -/
theorem argument?_eq (map : Substitution) (parameter : ParameterId) (offset : Option Nat) :
    map.argument? parameter offset = (map.binding? parameter).bind (Bound.argument? offset) := by
  unfold argument?
  split
  · next bound => rw [bound]; rfl
  · next bound => rw [bound]; rfl
  · next absent => rw [absent]; rfl

/-- The arguments of a pack are read off its binding. -/
theorem pack?_eq (map : Substitution) (parameter : ParameterId) :
    map.pack? parameter = (map.binding? parameter).bind Bound.pack? := by
  unfold pack?
  split
  · next bound => rw [bound]; rfl
  · next other =>
    cases bound : map.binding? parameter with
    | none => rfl
    | some found =>
      cases found with
      | single => rfl
      | pack arguments => exact absurd bound (other arguments)

/-- A parameter that is not bound becomes bound, and no other one changes. -/
theorem binding?_bind {extended : Substitution} (accepted : map.bind parameter bound = .ok extended)
    (key : ParameterId) :
    extended.binding? key = if key = parameter then some bound else map.binding? key := by
  unfold bind at accepted
  split at accepted
  · contradiction
  · next absent =>
    obtain rfl := Except.ok.inj accepted
    exact lookup_place absent key

/-- A substitution in order stays so. -/
theorem IsOrdered.bind (ordered : map.IsOrdered) {extended : Substitution}
    (accepted : map.bind parameter bound = .ok extended) : extended.IsOrdered := by
  unfold Substitution.bind at accepted
  split at accepted
  · contradiction
  · next absent =>
    obtain rfl := Except.ok.inj accepted
    exact place_ordered ordered absent

end Substitution

namespace Insertion

variable {map : Substitution} {insertion : Insertion} {insertions : List Insertion}

/-- An insertion is refused when its parameter is bound. -/
theorem insertInto_of_bound {found : Bound}
    (present : map.binding? insertion.parameter = some found) :
    insertion.insertInto map = (some ⟨insertion.parameter, insertion.bound⟩, map) := by
  rw [insertInto, Substitution.bind, present]

/-- An insertion is accepted when its parameter is not bound; then it binds the parameter, and
nothing else. -/
theorem insertInto_of_unbound (absent : map.binding? insertion.parameter = none) :
    ∃ extended, insertion.insertInto map = (none, extended) ∧
      map.bind insertion.parameter insertion.bound = .ok extended := by
  rw [insertInto, Substitution.bind, absent]
  exact ⟨_, rfl, rfl⟩

/-- The first insertion of a run is the first one of its parameter, and of no other. -/
theorem first?_cons (parameter : ParameterId) : first? (insertion :: insertions) parameter =
    if parameter = insertion.parameter then some insertion.bound
    else first? insertions parameter := by
  by_cases same : parameter = insertion.parameter
  · simp [first?, same]
  · simp [first?, same, Ne.symm same]

/-- An insertion binds its parameter where it is not bound, and changes nothing else. -/
theorem binding?_insertInto (parameter : ParameterId) :
    (insertion.insertInto map).2.binding? parameter =
      (map.binding? parameter).or (first? [insertion] parameter) := by
  rw [first?_cons]
  cases present : map.binding? insertion.parameter with
  | some found =>
    rw [insertInto_of_bound present]
    by_cases same : parameter = insertion.parameter
    · rw [same, present, Option.some_or]
    · rw [if_neg same]
      exact Option.or_none.symm
  | none =>
    obtain ⟨extended, inserted, accepted⟩ := insertInto_of_unbound present
    rw [inserted, Substitution.binding?_bind accepted]
    by_cases same : parameter = insertion.parameter
    · rw [if_pos same, if_pos same, same, present, Option.none_or]
    · rw [if_neg same, if_neg same]
      exact Option.or_none.symm

/-- An insertion keeps a substitution in order. -/
theorem insertInto_ordered (ordered : map.IsOrdered) : (insertion.insertInto map).2.IsOrdered := by
  cases present : map.binding? insertion.parameter with
  | some =>
    rw [insertInto_of_bound present]
    exact ordered
  | none =>
    obtain ⟨extended, inserted, accepted⟩ := insertInto_of_unbound present
    rw [inserted]
    exact ordered.bind accepted

/-- The first insertion of a parameter in a run of insertions is that of the first part, or else
that of the second one. -/
theorem first?_append (earlier later : List Insertion) (parameter : ParameterId) :
    first? (earlier ++ later) parameter =
      (first? earlier parameter).or (first? later parameter) := by
  rw [first?, List.find?_append, Option.map_or]
  rfl

/-- Insertions bind the parameters that are not bound as the first of them says. -/
theorem binding?_insertAll (parameter : ParameterId) :
    (map.insertAll insertions).binding? parameter =
      (map.binding? parameter).or (first? insertions parameter) := by
  induction insertions generalizing map with
  | nil => exact Option.or_none.symm
  | cons insertion insertions ih =>
    have split : first? (insertion :: insertions) parameter =
        (first? [insertion] parameter).or (first? insertions parameter) :=
      first?_append [insertion] insertions parameter
    rw [Substitution.insertAll, List.foldl_cons, split, ← Option.or_assoc, ← binding?_insertInto]
    exact ih

/-- Insertions keep a substitution in order. -/
theorem insertAll_ordered (ordered : map.IsOrdered) : (map.insertAll insertions).IsOrdered := by
  induction insertions generalizing map with
  | nil => exact ordered
  | cons insertion insertions ih => exact ih (insertInto_ordered ordered)

/-- A parameter has a first insertion exactly when it has some insertion. -/
theorem exists_first?_iff {parameter : ParameterId} :
    (∃ bound, first? insertions parameter = some bound) ↔
      parameter ∈ insertions.map Insertion.parameter := by
  rw [← Option.isSome_iff_exists, first?, Option.isSome_map, List.find?_isSome, List.mem_map]
  exact exists_congr fun insertion => and_congr_right fun _ => beq_iff_eq

/-- Among insertions of different parameters, each is the first one of its own. -/
theorem first?_eq_some_iff (distinct : (insertions.map Insertion.parameter).Nodup)
    {parameter : ParameterId} {bound : Bound} : first? insertions parameter = some bound ↔
      ∃ insertion ∈ insertions, insertion.parameter = parameter ∧ insertion.bound = bound := by
  constructor
  · intro first
    obtain ⟨insertion, found, same⟩ := Option.map_eq_some_iff.mp first
    have named := List.find?_some found
    exact ⟨insertion, List.mem_of_find?_eq_some found, beq_iff_eq.mp named, same⟩
  · rintro ⟨insertion, member, rfl, rfl⟩
    obtain ⟨before, after, rfl⟩ := List.append_of_mem member
    rw [List.map_append, List.map_cons, List.nodup_append] at distinct
    have apart : first? before insertion.parameter = none := by
      cases earlier : first? before insertion.parameter with
      | none => rfl
      | some bound =>
        have inserted := exists_first?_iff.mp ⟨bound, earlier⟩
        exact absurd rfl (distinct.2.2 _ inserted _ List.mem_cons_self)
    rw [first?_append, apart, Option.none_or, first?_cons, if_pos rfl]

/-- The order of insertions of different parameters makes no difference to what is inserted
first. -/
theorem first?_perm {other : List Insertion} (perm : insertions.Perm other)
    (distinct : (insertions.map Insertion.parameter).Nodup) (parameter : ParameterId) :
    first? insertions parameter = first? other parameter := by
  refine Option.ext fun bound => ?_
  rw [first?_eq_some_iff distinct, first?_eq_some_iff ((perm.map _).nodup_iff.mp distinct)]
  exact exists_congr fun insertion => and_congr_left fun _ => perm.mem_iff

/-- Insertions into the empty substitution put their entries in order. -/
theorem ordered_of_empty (insertions : List Insertion) :
    (Substitution.empty.insertAll insertions).IsOrdered := insertAll_ordered List.Pairwise.nil

/-- The entries after a run are the first insertions of the parameters. -/
theorem mem_insertAll {parameter : ParameterId} {bound : Bound} :
    (parameter, bound) ∈ (Substitution.empty.insertAll insertions).entries ↔
      first? insertions parameter = some bound := by
  have found : (Substitution.empty.insertAll insertions).binding? parameter =
      first? insertions parameter := binding?_insertAll parameter
  rw [(ordered_of_empty insertions).mem_iff, found]

/-- A run binds as many parameters as it names. -/
theorem size_insertAll (insertions : List Insertion) :
    (Substitution.empty.insertAll insertions).size =
      (insertions.map parameter).dedup.length := by
  have distinct := (ordered_of_empty insertions).nodup
  have same (key : ParameterId) :
      key ∈ (Substitution.empty.insertAll insertions).entries.map Prod.fst ↔
        key ∈ (insertions.map parameter).dedup := by
    rw [List.mem_dedup, ← exists_first?_iff, List.mem_map]
    constructor
    · rintro ⟨entry, member, rfl⟩
      exact ⟨entry.2, mem_insertAll.mp member⟩
    · rintro ⟨bound, first⟩
      exact ⟨(key, bound), mem_insertAll.mpr first, rfl⟩
  have perm : ((Substitution.empty.insertAll insertions).entries.map Prod.fst).Perm
      (insertions.map parameter).dedup :=
    (List.perm_ext_iff_of_nodup distinct (List.nodup_dedup _)).mpr same
  rw [Substitution.size, ← perm.length_eq, List.length_map]

end Insertion

/-- The substitution is what becomes of a run of insertions into the empty one: each parameter that
is inserted is bound once and for all. -/
structure FirstBindingWins (insertions : List Insertion) (map : Substitution) : Prop where
  /-- A further insertion of a parameter that is bound is refused, with the parameter and with what
  it would have been bound to, and leaves the substitution as it is. -/
  refused (next : Insertion) (found : Bound) : map.binding? next.parameter = some found →
    next.insertInto map = (some ⟨next.parameter, next.bound⟩, map)
  /-- A further insertion of a parameter that is not bound is accepted, and changes what is found
  for no other parameter. -/
  accepted (next : Insertion) : map.binding? next.parameter = none →
    ∃ extended, next.insertInto map = (none, extended) ∧
      extended.binding? next.parameter = some next.bound ∧
      ∀ other, other ≠ next.parameter → extended.binding? other = map.binding? other
  /-- Each parameter is bound as its first insertion says, if there is one. -/
  binding (parameter : ParameterId) :
    map.binding? parameter = Insertion.first? insertions parameter
  /-- The argument of a parameter at any offset is that of its first insertion. -/
  argument (parameter : ParameterId) (offset : Option Nat) : map.argument? parameter offset =
    (Insertion.first? insertions parameter).bind (Bound.argument? offset)
  /-- The arguments of a pack are those of its first insertion. -/
  pack (parameter : ParameterId) :
    map.pack? parameter = (Insertion.first? insertions parameter).bind Bound.pack?
  /-- The size is the number of different parameters that were inserted. -/
  size : map.size = (insertions.map Insertion.parameter).dedup.length
  /-- The entries are listed in the strict order of depths, and of indices within a depth. -/
  ordered : map.entries.Pairwise fun first second =>
    first.1.depth < second.1.depth ∨
      first.1.depth = second.1.depth ∧ first.1.index < second.1.index
  /-- The entries are the parameters that were inserted, with their first bindings. -/
  listed (parameter : ParameterId) (bound : Bound) :
    (parameter, bound) ∈ map.entries ↔ Insertion.first? insertions parameter = some bound
  /-- Insertions of different parameters that follow each other may be made in any order. -/
  reordered (before block other after : List Insertion) :
    insertions = before ++ block ++ after → block.Perm other →
      (block.map Insertion.parameter).Nodup →
        Substitution.empty.insertAll (before ++ other ++ after) = map

/-- In every run of insertions of arguments and of packs, the first binding of each parameter
wins. -/
theorem insert_first_wins (insertions : List Insertion) :
    FirstBindingWins insertions (Substitution.empty.insertAll insertions) := by
  have binding (run : List Insertion) (parameter : ParameterId) :
      (Substitution.empty.insertAll run).binding? parameter = Insertion.first? run parameter :=
    Insertion.binding?_insertAll parameter
  have inserted := Insertion.ordered_of_empty insertions
  refine ⟨fun next found => Insertion.insertInto_of_bound, fun next absent => ?_,
    binding insertions, fun parameter offset => ?_, fun parameter => ?_,
    Insertion.size_insertAll insertions, inserted.imp ParameterId.compare_eq_lt.mp,
    fun parameter bound => Insertion.mem_insertAll, ?_⟩
  · obtain ⟨extended, accepted, bound⟩ := Insertion.insertInto_of_unbound absent
    have found := Substitution.binding?_bind bound
    refine ⟨extended, accepted, ?_, fun other apart => ?_⟩
    · rw [found, if_pos rfl]
    · rw [found, if_neg apart]
  · rw [← binding, Substitution.argument?_eq]
  · rw [← binding, Substitution.pack?_eq]
  · rintro before block other after rfl perm distinct
    have same (parameter : ParameterId) : Insertion.first? block parameter =
        Insertion.first? other parameter := Insertion.first?_perm perm distinct parameter
    apply (Insertion.ordered_of_empty _).ext inserted
    intro parameter
    simp only [binding, Insertion.first?_append, same]

end ConstExpr
