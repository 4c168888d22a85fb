import ConstExpr.Proofs.Instantiate.Visibility

/-!
# Two stages for types and template arguments

A substitution and one that extends it are applied one after the other, each at an offset of its
own. What matters of a parameter is which of the offsets selects an argument of its pack: the first
one, being that of the instantiation at once, or else the second one (`Offsets.Suit`). Then types
and template arguments become the same in two stages as at once, and they are kept at once exactly
when they are kept in both stages.
-/
namespace ConstExpr

namespace Substitution

variable {first second : Substitution} {parameter : ParameterId} {bound : Bound}

/-- The parameter is bound to a pack. -/
def Expands (map : Substitution) (parameter : ParameterId) : Prop :=
  ∃ arguments, map.binding? parameter = some (.pack arguments)

/-- A parameter that is not bound to a pack is replaced by the same at every offset. -/
theorem argument?_eq_of_single {map : Substitution} (single : ¬ map.Expands parameter)
    (offset offset' : Option Nat) :
    map.argument? parameter offset = map.argument? parameter offset' := by
  unfold argument?
  split
  · rfl
  · next arguments bound => exact absurd ⟨arguments, bound⟩ single
  · rfl

/-- A substitution of which an extension is closed is closed itself. -/
theorem IsClosed.of_extends (closed : second.IsClosed) (extends_ : second.Extends first) :
    first.IsClosed := by
  intro parameter argument member
  refine closed parameter argument ?_
  unfold arguments at member ⊢
  cases bound : first.binding? parameter with
  | none => rw [bound] at member; contradiction
  | some found => rwa [extends_ _ _ bound, ← bound]

end Substitution

/-- The offsets of two instantiations, one after the other, and of one that replaces both. -/
structure Offsets where
  /-- The offset of the first instantiation. -/
  early : Option Nat
  /-- The offset of the second instantiation. -/
  late : Option Nat
  /-- The offset of the instantiation at once. -/
  once : Option Nat

/-- The offsets select the same arguments of a pack in two stages as at once: if the first stage
replaces the parameter, it does so at the offset of the instantiation at once, and otherwise the
second stage has that offset. -/
structure Offsets.Suit (offsets : Offsets) (first second : Substitution) (parameter : ParameterId) :
    Prop where
  /-- What the first stage replaces is replaced in the same way at once. -/
  replaced : (first.argument? parameter offsets.early).isSome = true → first.Expands parameter →
    offsets.early = offsets.once
  /-- What the first stage leaves the second one treats as the instantiation at once. -/
  left : first.argument? parameter offsets.early = none → second.Expands parameter →
    offsets.late = offsets.once

/-- What replaces a parameter in two stages is what replaces it at once, in the first stage or else
in the second one. -/
structure Offsets.Agree (offsets : Offsets) (first second : Substitution)
    (parameter : ParameterId) : Prop where
  /-- What replaces the parameter in the first stage replaces it at once. -/
  replaced : ∀ argument, first.argument? parameter offsets.early = some argument →
    second.argument? parameter offsets.once = some argument
  /-- What the first stage leaves is replaced in the second stage as it is at once. -/
  left : first.argument? parameter offsets.early = none →
    second.argument? parameter offsets.late = second.argument? parameter offsets.once

namespace Offsets.Suit

variable {offsets : Offsets} {first second : Substitution} {parameter : ParameterId}
  (extends_ : second.Extends first)

/-- A parameter that is not bound to a pack suits all offsets. -/
theorem of_single (extends_ : second.Extends first) (single : ¬ second.Expands parameter) :
    offsets.Suit first second parameter :=
  ⟨fun _ ⟨arguments, bound⟩ => absurd ⟨arguments, extends_ _ _ bound⟩ single,
    fun _ expands => absurd expands single⟩

/-- A parameter that the first stage replaces suits when that has the offset of the instantiation at
once. -/
theorem of_replaced (replaced : (first.argument? parameter offsets.early).isSome = true)
    (same : offsets.early = offsets.once) : offsets.Suit first second parameter := by
  refine ⟨fun _ _ => same, fun left => ?_⟩
  rw [left] at replaced
  contradiction

/-- Every parameter suits the offsets of two stages of which the first one selects nothing. -/
theorem of_none (none : offsets.early = none) (same : offsets.late = offsets.once) :
    offsets.Suit first second parameter := by
  refine ⟨fun replaced ⟨arguments, bound⟩ => ?_, fun _ _ => same⟩
  rw [none, Substitution.argument?, bound] at replaced
  contradiction

include extends_ in
/-- Where the offsets suit a parameter, it becomes the same in two stages as at once. -/
theorem agree (suit : offsets.Suit first second parameter) :
    offsets.Agree first second parameter := by
  refine ⟨fun argument replaced => ?_, fun left => ?_⟩
  · have same := suit.replaced (by rw [replaced]; rfl)
    unfold Substitution.argument? at replaced ⊢
    cases bound : first.binding? parameter with
    | none => rw [bound] at replaced; contradiction
    | some found =>
      rw [bound] at replaced
      rw [extends_ _ _ bound]
      cases found with
      | single => exact replaced
      | pack arguments => rwa [← same ⟨arguments, bound⟩]
  · by_cases expands : second.Expands parameter
    · rw [suit.left left expands]
    · exact Substitution.argument?_eq_of_single expands _ _

end Offsets.Suit

/-- A parameter is left at once exactly when it is left in both stages. -/
theorem Offsets.Agree.argument?_eq_none_iff {offsets : Offsets} {first second : Substitution}
    {parameter : ParameterId} (agree : offsets.Agree first second parameter) :
    second.argument? parameter offsets.once = none ↔
      first.argument? parameter offsets.early = none ∧
        second.argument? parameter offsets.late = none := by
  cases replaced : first.argument? parameter offsets.early with
  | some argument => simp [agree.replaced argument replaced]
  | none => simp [agree.left replaced]

section Stages

variable {first second : Substitution} {offsets : Offsets} (extends_ : second.Extends first)
  (closed : second.IsClosed)

include extends_ closed

namespace Ty

variable {type : Ty}

/-- A type becomes the same in two stages as at once. -/
theorem instantiate_staged
    (agree : ∀ parameter ∈ type.parameters, offsets.Agree first second parameter.id) :
    (type.instantiate first offsets.early).instantiate second offsets.late =
      type.instantiate second offsets.once := by
  induction type with
  | parameter mentioned =>
    have agrees := agree mentioned (List.mem_singleton_self _)
    cases replaced : first.argument? mentioned.id offsets.early with
    | none => rw [instantiate, replaced, instantiate, agrees.left replaced, instantiate]
    | some argument =>
      have silent := (closed.of_extends extends_).silent replaced
      rw [instantiate, replaced, instantiate, agrees.replaced argument replaced]
      cases argument with
      | type => exact instantiate_of_silent silent
      | nonType => rfl
  | pointer _ ih | const _ ih | packExpansion _ ih | reference _ _ ih =>
    simp only [instantiate, ih agree]
  | _ => rfl

/-- A type is kept at once exactly when it is kept in both stages. -/
theorem kept_staged
    (agree : ∀ parameter ∈ type.parameters, offsets.Agree first second parameter.id) :
    type.instantiate second offsets.once = type ↔ type.instantiate first offsets.early = type ∧
      type.instantiate second offsets.late = type := by
  have staged := instantiate_staged extends_ closed agree
  constructor
  · intro kept
    rcases instantiate_cases (closed.of_extends extends_) offsets.early type with
      ⟨same, -⟩ | ⟨silent, -⟩
    · rw [same, kept] at staged
      exact ⟨same, staged⟩
    · rw [instantiate_of_silent silent, kept] at staged
      exact ⟨staged, instantiate_of_silent (staged ▸ silent)⟩
  · rintro ⟨early, late⟩
    rw [← staged, early, late]

end Ty

namespace TemplateArgument

variable {argument : TemplateArgument}

omit extends_ closed

/-- The argument is no expansion of packs: one argument takes its place. -/
def IsSingle (argument : TemplateArgument) : Prop :=
  ∀ pattern, argument = .type (.packExpansion pattern) → pattern.packs = []

/-- One argument takes the place of one that is no expansion of packs. -/
theorem IsSingle.expand (single : argument.IsSingle) (map : Substitution) (offset : Option Nat) :
    argument.expand map offset = [argument.instantiate map offset] := by
  refine expand_of_unsized fun pattern size expansion sized => ?_
  obtain ⟨pack, shown⟩ := Ty.exists_shown sized
  rw [single pattern expansion] at shown
  contradiction

/-- What becomes of an argument that is no expansion of packs is none. -/
theorem IsSingle.instantiate {map : Substitution} (closed : map.IsClosed)
    (single : argument.IsSingle) (offset : Option Nat) :
    (argument.instantiate map offset).IsSingle := by
  intro pattern expansion
  cases argument with
  | nonType => contradiction
  | type given =>
    rcases Ty.instantiate_cases closed offset given with ⟨same, -⟩ | ⟨silent, -⟩
    · refine single pattern ?_
      rw [← expansion, TemplateArgument.instantiate, same]
    · have mentions : (Ty.packExpansion pattern).mentionsParameter = false := by
        rw [← TemplateArgument.type.inj expansion]
        exact silent
      exact Ty.packs_of_silent mentions

/-- An expansion of known size becomes its elements. -/
theorem expand_of_count {map : Substitution} {offset : Option Nat} {pattern : Ty} {size : Nat}
    (sized : pattern.packSize map = .count size) :
    (TemplateArgument.type (.packExpansion pattern)).expand map offset =
      (List.range size).map fun place => .type (pattern.instantiate map (some place)) := by
  simp only [expand, sized]

/-- An expansion of a pack that is not bound stays. -/
theorem expand_of_unbound {map : Substitution} {pattern : Ty} {pack : TemplateParameter}
    (shown : pack ∈ pattern.packs) (unbound : map.binding? pack.id = none) (offset : Option Nat) :
    (TemplateArgument.type (.packExpansion pattern)).expand map offset =
      [.type (.packExpansion pattern)] := by
  have deferred : pattern.packSize map = .deferred := by
    rw [Ty.packSize_of_mem shown]
    exact Substitution.packSize_eq_deferred.mpr ⟨Ty.isPack_of_mem_packs shown, unbound⟩
  have kept : (Ty.packExpansion pattern).instantiate map offset = .packExpansion pattern := by
    refine Ty.instantiate_of_unreplaced fun parameter mentioned => ?_
    rw [Ty.eq_of_mem_packs shown mentioned, Substitution.argument?, unbound]
  simp only [expand, deferred, instantiate, kept]

/-- An expansion of a pack expands in the same way at every offset. -/
theorem expand_eq_of_spread {map : Substitution} {pattern : Ty} {pack : TemplateParameter}
    (shown : pack ∈ pattern.packs)
    (fits : ∀ bound, map.binding? pack.id = some bound → bound.Fits pack)
    (offset offset' : Option Nat) :
    (TemplateArgument.type (.packExpansion pattern)).expand map offset =
      (TemplateArgument.type (.packExpansion pattern)).expand map offset' := by
  cases bound : map.binding? pack.id with
  | some found =>
    obtain ⟨size, sized⟩ := Substitution.packSize_of_fits bound (fits found bound)
      (Ty.isPack_of_mem_packs shown)
    rw [expand, expand, Ty.packSize_of_mem shown, sized]
  | none => rw [expand_of_unbound shown bound, expand_of_unbound shown bound]

/-- All parameters of the argument become the same in two stages as at once, but for those of the
packs that it expands. -/
def Agrees (offsets : Offsets) (first second : Substitution) (argument : TemplateArgument) : Prop :=
  ∀ parameter ∈ argument.carried.parameters, offsets.Agree first second parameter.id ∨
    ∃ pattern, argument = .type (.packExpansion pattern) ∧ parameter ∈ pattern.packs

include extends_ closed

/-- The arguments in the place of one are the same in two stages as at once. -/
theorem expand_staged (agrees : argument.Agrees offsets first second)
    (fits : ∀ parameter ∈ argument.carried.parameters, ∀ bound,
      second.binding? parameter.id = some bound → bound.Fits parameter) :
    (argument.expand first offsets.early).flatMap (TemplateArgument.expand second offsets.late) =
      argument.expand second offsets.once := by
  have closedFirst := closed.of_extends extends_
  by_cases single : argument.IsSingle
  · have agree : ∀ parameter ∈ argument.carried.parameters,
        offsets.Agree first second parameter.id := by
      intro parameter mentioned
      rcases agrees parameter mentioned with agree | ⟨pattern, expansion, shown⟩
      · exact agree
      · rw [single pattern expansion] at shown
        contradiction
    have staged := Ty.instantiate_staged extends_ closed agree
    rw [single.expand, List.flatMap_singleton, (single.instantiate closedFirst _).expand,
      single.expand]
    cases argument with
    | type given => exact congrArg (fun type => [TemplateArgument.type type]) staged
    | nonType value given =>
      exact congrArg (fun type => [TemplateArgument.nonType value type]) staged
  · obtain ⟨pattern, rfl, nonempty⟩ : ∃ pattern, argument = .type (.packExpansion pattern) ∧
        pattern.packs ≠ [] := by
      simpa [IsSingle] using single
    obtain ⟨pack, shown⟩ := List.exists_mem_of_ne_nil _ nonempty
    have mentioned : pack ∈ pattern.parameters := Ty.mem_parameters shown
    have fitsPack := fits pack mentioned
    cases bound : first.binding? pack.id with
    | none =>
      -- The first stage leaves the expansion to the second one.
      rw [expand_of_unbound shown bound, List.flatMap_singleton]
      exact expand_eq_of_spread shown fitsPack _ _
    | some found =>
      -- The first stage expands it, and nothing is left in its elements.
      obtain ⟨size, sized⟩ := Substitution.packSize_of_fits bound
        (fitsPack found (extends_ _ _ bound)) (Ty.isPack_of_mem_packs shown)
      have sizedFirst : pattern.packSize first = .count size :=
        (Ty.packSize_of_mem shown).trans sized
      have sizedSecond : pattern.packSize second = .count size := by
        rw [Ty.packSize_extends extends_ (by rw [sizedFirst]; nofun), sizedFirst]
      have silent : ∀ place ∈ List.range size, (TemplateArgument.type
          (pattern.instantiate first (some place))).mentionsParameter = false :=
        fun place below => silent_of_expanded closedFirst sizedFirst (List.mem_range.mp below)
      have element : ∀ place ∈ List.range size,
          pattern.instantiate first (some place) = pattern.instantiate second (some place) := by
        intro place below
        have agree : ∀ parameter ∈ pattern.parameters,
            Offsets.Agree ⟨some place, none, some place⟩ first second parameter.id :=
          fun parameter mentioned => Ty.eq_of_mem_packs shown mentioned ▸ (Offsets.Suit.of_replaced
            (Substitution.argument?_of_packSize sized (List.mem_range.mp below)) rfl).agree extends_
        have staged := Ty.instantiate_staged extends_ closed agree
        rwa [Ty.instantiate_of_silent (silent place below)] at staged
      have kept : ∀ argument ∈ (List.range size).map fun place =>
          TemplateArgument.type (pattern.instantiate first (some place)),
          argument.expand second offsets.late = [argument] :=
        List.forall_mem_map.mpr fun place below => expand_of_silent (silent place below)
      rw [expand_of_count sizedFirst, expand_of_count sizedSecond, List.flatMap_congr kept,
        List.flatMap_singleton']
      exact List.map_congr_left fun place below =>
        congrArg TemplateArgument.type (element place below)

omit extends_ closed

/-- An argument stays, or one that mentions a parameter becomes arguments that mention none. -/
theorem expand_silences {map : Substitution} (closed : map.IsClosed) (offset : Option Nat)
    (argument : TemplateArgument) : argument.expand map offset = [argument] ∨
      argument.mentionsParameter = true ∧
        ∀ result ∈ argument.expand map offset, result.mentionsParameter = false := by
  cases mentions : argument.mentionsParameter with
  | false => exact .inl (expand_of_silent mentions)
  | true =>
    rcases expand_cases map offset argument with same | ⟨pattern, size, rfl, sized, each⟩
    · rcases Ty.instantiate_cases closed offset argument.carried with ⟨kept, -⟩ | ⟨silent, -⟩
      · refine .inl (same.trans ?_)
        cases argument with
        | type given => exact congrArg (fun type => [TemplateArgument.type type]) kept
        | nonType value given =>
          exact congrArg (fun type => [TemplateArgument.nonType value type]) kept
      · refine .inr ⟨rfl, ?_⟩
        rw [same, List.forall_mem_singleton]
        cases argument <;> exact silent
    · refine .inr ⟨rfl, ?_⟩
      rw [each, List.forall_mem_map]
      exact fun place below => silent_of_expanded closed sized (List.mem_range.mp below)

/-- A list of arguments stays, or fewer of them mention a parameter. -/
theorem flatMap_expand_cases {map : Substitution} (closed : map.IsClosed) (offset : Option Nat)
    (arguments : List TemplateArgument) :
    arguments.flatMap (TemplateArgument.expand map offset) = arguments ∨
      (arguments.flatMap (TemplateArgument.expand map offset)).countP mentionsParameter <
        arguments.countP mentionsParameter := by
  induction arguments with
  | nil => exact .inl rfl
  | cons head tail ih =>
    have rest : (tail.flatMap (TemplateArgument.expand map offset)).countP mentionsParameter ≤
        tail.countP mentionsParameter := by
      rcases ih with same | fewer
      · exact Nat.le_of_eq (congrArg (List.countP mentionsParameter) same)
      · exact Nat.le_of_lt fewer
    rw [List.flatMap_cons]
    rcases expand_silences closed offset head with same | ⟨mentions, silent⟩
    · rw [same, List.singleton_append]
      rcases ih with same | fewer
      · exact .inl (by rw [same])
      · refine .inr ?_
        rw [List.countP_cons, List.countP_cons]
        omega
    · have none : (head.expand map offset).countP mentionsParameter = 0 :=
        List.countP_eq_zero.mpr fun result member => by
          rw [silent result member]
          exact Bool.false_ne_true
      refine .inr ?_
      rw [List.countP_append, none, List.countP_cons_of_pos mentions]
      omega

end TemplateArgument

namespace OverloadSet

variable {set : OverloadSet}

/-- An overload set becomes the same in two stages as at once. -/
theorem expanded_staged
    (agrees : ∀ argument ∈ set.arguments, argument.Agrees offsets first second)
    (fits : ∀ argument ∈ set.arguments, ∀ parameter ∈ argument.carried.parameters, ∀ bound,
      second.binding? parameter.id = some bound → bound.Fits parameter) :
    (set.expanded first offsets.early).expanded second offsets.late =
      set.expanded second offsets.once := by
  obtain ⟨candidates, name, templateArguments⟩ := set
  cases templateArguments with
  | none => rfl
  | some arguments =>
    have staged : (arguments.flatMap (TemplateArgument.expand first offsets.early)).flatMap
        (TemplateArgument.expand second offsets.late) =
          arguments.flatMap (TemplateArgument.expand second offsets.once) := by
      rw [List.flatMap_assoc]
      exact List.flatMap_congr fun argument member =>
        TemplateArgument.expand_staged extends_ closed (agrees argument member)
          (fits argument member)
    simp only [expanded, Option.map_some, staged]

/-- An overload set is kept at once exactly when it is kept in both stages. -/
theorem kept_staged
    (agrees : ∀ argument ∈ set.arguments, argument.Agrees offsets first second)
    (fits : ∀ argument ∈ set.arguments, ∀ parameter ∈ argument.carried.parameters, ∀ bound,
      second.binding? parameter.id = some bound → bound.Fits parameter) :
    set.expanded second offsets.once = set ↔ set.expanded first offsets.early = set ∧
      set.expanded second offsets.late = set := by
  have staged := expanded_staged extends_ closed agrees fits
  constructor
  · intro kept
    rw [kept] at staged
    have early : set.expanded first offsets.early = set := by
      -- The second stage does not restore the mentions that the first one takes away.
      have restored := congrArg OverloadSet.arguments staged
      rw [arguments_expanded] at restored
      rcases TemplateArgument.flatMap_expand_cases (closed.of_extends extends_) offsets.early
        set.arguments with same | fewer
      · exact expanded_eq_iff.mpr same
      · rw [← arguments_expanded] at fewer
        rcases TemplateArgument.flatMap_expand_cases closed offsets.late
          (set.expanded first offsets.early).arguments with same | again
        · rw [← same, restored] at fewer
          exact absurd fewer (Nat.lt_irrefl _)
        · rw [restored] at again
          exact absurd (Nat.lt_trans fewer again) (Nat.lt_irrefl _)
    rw [early] at staged
    exact ⟨early, staged⟩
  · rintro ⟨early, late⟩
    rw [← staged, early, late]

end OverloadSet

end Stages

namespace Instantiation

section Elements

variable {early late : Instantiation} {offsets : Offsets} {type : Ty} {isPack : Bool} {place : Nat}
  (extends_ : late.map.Extends early.map)
  (suit : ∀ pack ∈ type.packs, offsets.Suit early.map late.map pack.id)

/-- No element is selected of a parameter that is no pack. -/
theorem element?_of_ordinary {work : Instantiation} {offset : Option Nat} :
    work.element? offset type false = none :=
  Option.eq_none_iff_forall_ne_some.mpr fun _ selected =>
    Bool.noConfusion (element?_eq_some.mp selected).2.1

/-- No element is selected of a type whose packs have no number of elements. -/
theorem element?_eq_none {work : Instantiation} {offset : Option Nat}
    (unsized : ∀ size, type.packSize work.map ≠ .count size) :
    work.element? offset type isPack = none :=
  Option.eq_none_iff_forall_ne_some.mpr fun _ selected =>
    have ⟨_, _, size, sized, _⟩ := element?_eq_some.mp selected
    unsized size sized

include extends_ suit

/-- The element that the first stage selects is selected at once. -/
theorem element?_of_some (selected : early.element? offsets.early type isPack = some place) :
    late.element? offsets.once type isPack = some place := by
  obtain ⟨same, isPack, size, sized, below⟩ := element?_eq_some.mp selected
  obtain ⟨pack, shown⟩ := Ty.exists_shown sized
  have packSized : early.map.packSize pack = .count size :=
    (Ty.packSize_of_mem shown).symm.trans sized
  have replaced := Substitution.argument?_of_packSize packSized below
  obtain ⟨_, arguments, bound, _⟩ := Substitution.packSize_eq_count.mp packSized
  rw [← same] at replaced
  have once := (suit pack shown).replaced replaced ⟨arguments, bound⟩
  refine element?_eq_some.mpr ⟨once ▸ same, isPack, size, ?_, below⟩
  rw [Ty.packSize_extends extends_ (by rw [sized]; nofun), sized]

variable (fits : ∀ pack ∈ type.packs, ∀ bound, late.map.binding? pack.id = some bound →
  bound.Fits pack)

include fits

omit suit in
/-- Where the first stage selects no element of a pack, it replaces no pack that the type shows. -/
theorem unreplaced_of_element? (left : early.element? offsets.early type true = none) :
    ∀ pack ∈ type.packs, early.map.argument? pack.id offsets.early = none := by
  refine fun pack shown => Option.eq_none_iff_forall_ne_some.mpr fun argument replaced => ?_
  obtain ⟨place, size, same, sized, below⟩ := Substitution.selected_of_fits replaced
    (fun bound found => fits pack shown bound (extends_ _ _ found)) (Ty.isPack_of_mem_packs shown)
  have selected : early.element? offsets.early type true = some place :=
    element?_eq_some.mpr ⟨same, rfl, size, (Ty.packSize_of_mem shown).trans sized, below⟩
  rw [selected] at left
  contradiction

/-- Where the first stage selects no element of a pack, the second one selects the one that is
selected at once. -/
theorem element?_of_none (left : early.element? offsets.early type isPack = none) :
    late.element? offsets.late type isPack = late.element? offsets.once type isPack := by
  by_cases sized : ∃ size, type.packSize late.map = .count size
  · cases isPack with
    | false => rw [element?_of_ordinary, element?_of_ordinary]
    | true =>
      obtain ⟨size, sized⟩ := sized
      obtain ⟨pack, shown⟩ := Ty.exists_shown sized
      obtain ⟨_, arguments, bound, _⟩ := Substitution.packSize_eq_count.mp
        ((Ty.packSize_of_mem shown).symm.trans sized)
      rw [(suit pack shown).left (unreplaced_of_element? extends_ fits left pack shown)
        ⟨arguments, bound⟩]
  · have unsized : ∀ size, type.packSize late.map ≠ .count size :=
      fun size same => sized ⟨size, same⟩
    rw [element?_eq_none unsized, element?_eq_none unsized]

/-- No element is selected at once exactly when none is selected in the stages. -/
theorem element?_eq_none_iff : late.element? offsets.once type isPack = none ↔
    early.element? offsets.early type isPack = none ∧
      late.element? offsets.late type isPack = none := by
  cases selected : early.element? offsets.early type isPack with
  | some place => simp [element?_of_some extends_ suit selected]
  | none => simp [element?_of_none extends_ suit fits selected]

end Elements

end Instantiation

end ConstExpr
