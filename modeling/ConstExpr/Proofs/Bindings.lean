import ConstExpr.Substitution

/-!
# What parameters are bound to

The order of parameters, the arguments that a substitution binds, those that replace a parameter at
an offset, and the sizes of packs, with what becomes of them when more parameters are bound.
-/
namespace ConstExpr

namespace ParameterId

variable {first second third : ParameterId}

/-- Parameters compare by depth and then by index. -/
theorem compare_eq_lt :
    compare first second = .lt ↔
      first.depth < second.depth ∨ first.depth = second.depth ∧ first.index < second.index := by
  change (compare first.depth second.depth).then
    ((compare first.index second.index).then .eq) = .lt ↔ _
  rw [Ordering.then_eq_lt, Ordering.then_eq, Nat.compare_eq_lt, Nat.compare_eq_eq,
    Nat.compare_eq_lt]

/-- No parameter comes before itself. -/
theorem compare_irrefl : compare first first ≠ .lt := by
  intro less
  have less := compare_eq_lt.mp less
  omega

/-- What comes before a parameter comes before all behind it. -/
theorem compare_trans (former : compare first second = .lt) (latter : compare second third = .lt) :
    compare first third = .lt := by
  have former := compare_eq_lt.mp former
  have latter := compare_eq_lt.mp latter
  have depths : first.depth ≤ second.depth ∧ second.depth ≤ third.depth := by omega
  exact compare_eq_lt.mpr (by omega)

/-- Of two parameters one comes first. -/
theorem compare_total (apart : first ≠ second) (notLess : compare second first ≠ .lt) :
    compare first second = .lt := by
  rw [Ne, compare_eq_lt] at notLess
  rw [compare_eq_lt]
  by_cases depth : first.depth = second.depth
  · have index : first.index ≠ second.index := by
      intro index
      cases first
      cases second
      exact apart (congr (congrArg mk depth) index)
    omega
  · omega

end ParameterId

/-- The arguments that are bound, one or those of a pack. -/
def Bound.arguments : Bound → List TemplateArgument
  | single argument => [argument]
  | pack arguments => arguments

/-- The arguments that a parameter is bound to, none where it is not bound. -/
def Substitution.arguments (map : Substitution) (parameter : ParameterId) :
    List TemplateArgument :=
  ((map.binding? parameter).map Bound.arguments).getD []

/-- Packs are bound to packs, and ordinary parameters to one argument. -/
def Bound.Fits (parameter : TemplateParameter) : Bound → Prop
  | single _ => parameter.isPack = false
  | pack _ => parameter.isPack = true

/-- A substitution binds everything that another one binds, and in the same way. -/
def Substitution.Extends (map smaller : Substitution) : Prop :=
  ∀ parameter bound, smaller.binding? parameter = some bound →
    map.binding? parameter = some bound

namespace Substitution

variable {map smaller : Substitution} {count : Nat}

/-- An argument that replaces a parameter is one that the parameter is bound to. -/
theorem mem_arguments {parameter : ParameterId}
    {offset : Option Nat} {argument : TemplateArgument}
    (replaced : map.argument? parameter offset = some argument) :
    argument ∈ map.arguments parameter := by
  unfold argument? at replaced
  unfold arguments
  split at replaced
  · next found bound =>
    rw [bound]
    exact List.mem_singleton.mpr (Option.some.inj replaced).symm
  · next found bound =>
    obtain ⟨place, -, selected⟩ := Option.bind_eq_some_iff.mp replaced
    rw [bound]
    exact List.mem_of_getElem? selected
  · contradiction

/-- A substitution that binds all entries of another one extends it. -/
theorem extends_of_entries
    (each : ∀ entry ∈ smaller.entries, map.binding? entry.1 = some entry.2) :
    map.Extends smaller := by
  intro parameter bound found
  obtain ⟨before, after, same, -⟩ := List.lookup_eq_some_iff.mp found
  refine each (parameter, bound) ?_
  rw [same]
  exact List.mem_append_right _ List.mem_cons_self

/-- Arguments that a parameter is bound to are those of an entry. -/
theorem forall_arguments {property : TemplateArgument → Prop}
    (each : ∀ entry ∈ map.entries, ∀ argument ∈ entry.2.arguments, property argument)
    (parameter : ParameterId) : ∀ argument ∈ map.arguments parameter, property argument := by
  unfold arguments
  cases bound : map.binding? parameter with
  | none => exact nofun
  | some found =>
    obtain ⟨before, after, same, -⟩ := List.lookup_eq_some_iff.mp bound
    exact each (parameter, found) (by simp [same])

/-- An ordinary parameter that is bound is replaced at every offset. -/
theorem argument?_of_fits {parameter : TemplateParameter} {bound : Bound}
    (found : map.binding? parameter.id = some bound) (fits : bound.Fits parameter)
    (ordinary : parameter.isPack = false) (offset : Option Nat) :
    (map.argument? parameter.id offset).isSome = true := by
  cases bound with
  | single => simp [argument?, found]
  | pack => rw [Bound.Fits, ordinary] at fits; contradiction

/-- A pack that is bound to a pack has a number of elements. -/
theorem packSize_of_fits {pack : TemplateParameter} {bound : Bound}
    (found : map.binding? pack.id = some bound) (fits : bound.Fits pack)
    (isPack : pack.isPack = true) : ∃ count, map.packSize pack = .count count := by
  cases bound with
  | single => rw [Bound.Fits, isPack] at fits; contradiction
  | pack arguments => exact ⟨arguments.length, by simp [packSize, isPack, found]⟩

/-- A pack that is bound to a pack is replaced at the offsets below its number of elements only. -/
theorem selected_of_fits {pack : TemplateParameter} {offset : Option Nat}
    {argument : TemplateArgument} (replaced : map.argument? pack.id offset = some argument)
    (fits : ∀ bound, map.binding? pack.id = some bound → bound.Fits pack)
    (isPack : pack.isPack = true) :
    ∃ place size, offset = some place ∧ map.packSize pack = .count size ∧ place < size := by
  unfold argument? at replaced
  split at replaced
  · next found bound =>
    have ordinary := fits _ bound
    rw [Bound.Fits, isPack] at ordinary
    contradiction
  · next arguments bound =>
    obtain ⟨place, rfl, selected⟩ := Option.bind_eq_some_iff.mp replaced
    exact ⟨place, arguments.length, rfl, by simp [packSize, isPack, bound],
      (List.getElem?_eq_some_iff.mp selected).1⟩
  · contradiction

/-- A pack has as many elements as arguments are bound to it. -/
theorem packSize_eq_count {pack : TemplateParameter} :
    map.packSize pack = .count count ↔ pack.isPack = true ∧
      ∃ arguments, map.binding? pack.id = some (.pack arguments) ∧ arguments.length = count := by
  unfold packSize
  split
  · next isPack => split <;> simp_all
  · next notPack => simp_all

/-- A pack whose size is deferred is not bound. -/
theorem packSize_eq_deferred {pack : TemplateParameter} :
    map.packSize pack = .deferred ↔ pack.isPack = true ∧ map.binding? pack.id = none := by
  unfold packSize
  split
  · next isPack => split <;> simp_all
  · next notPack => simp_all

/-- What the size of a pack is stays so when more parameters are bound. -/
theorem packSize_extends (extends_ : map.Extends smaller) {pack : TemplateParameter}
    (settled : smaller.packSize pack ≠ .deferred) :
    map.packSize pack = smaller.packSize pack := by
  unfold packSize at settled ⊢
  split
  · next isPack =>
    simp only [isPack, if_true] at settled
    cases bound : smaller.binding? pack.id with
    | none => simp [bound] at settled
    | some found => rw [extends_ _ _ bound]
  · rfl

/-- An offset below the size of a pack selects an argument of it. -/
theorem argument?_of_packSize {pack : TemplateParameter} {place : Nat}
    (sized : map.packSize pack = .count count) (below : place < count) :
    (map.argument? pack.id (some place)).isSome = true := by
  obtain ⟨_, arguments, bound, rfl⟩ := packSize_eq_count.mp sized
  simp [argument?, bound, below]

end Substitution

end ConstExpr
