import ConstExpr.Proofs.Packs

/-!
# What the size of a pack expansion says

The outcomes for the parts of a tree are combined from left to right, and the first deferral or
failure is kept, so an outcome need not tell all that is wrong with the packs. What it does tell is
true of all of them (`Expr.SizesPacks`): a number is the number of elements of every pack that is
shown, and a failure has a pack or two packs to blame. For the failure a number is left open as long
as no outcome contradicts it (`PackSize.LeavesOpen`).
-/
namespace ConstExpr

/-- The parameter is bound to a pack of this many arguments. -/
def Substitution.BindsPack (map : Substitution) (pack : TemplateParameter) (size : Nat) : Prop :=
  ∃ arguments, map.binding? pack.id = some (.pack arguments) ∧ arguments.length = size

namespace PackSize

/-- The outcome leaves it open that there are this many elements: it is deferred, or it agrees with
the number. -/
def LeavesOpen (count : Nat) (size : PackSize) : Prop := size = .deferred ∨ size.Agrees count

/-- A combination leaves a number open when both parts do. -/
theorem isJoint_leavesOpen (count : Nat) : IsJoint (LeavesOpen count) where
  absent := .inr (.inl rfl)
  combine := by
    rintro first second (rfl | agrees) (rfl | agrees')
    · exact .inl rfl
    · exact .inl rfl
    · rcases agrees with rfl | rfl <;> exact .inl rfl
    · exact .inr (agrees_combine.mpr ⟨agrees, agrees'⟩)

/-- A failure leaves no number open. -/
theorem not_leavesOpen_failed (count : Nat) : ¬ PackSize.failed.LeavesOpen count := by
  rintro (same | same | same) <;> contradiction

end PackSize

namespace Substitution

variable {map : Substitution} {pack : TemplateParameter}

/-- A pack has a number of elements when it is bound to as many arguments. -/
theorem packSize_eq_count_of_isPack (isPack : pack.isPack = true) {size : Nat} :
    map.packSize pack = .count size ↔ map.BindsPack pack size := by
  rw [packSize_eq_count, and_iff_right isPack, BindsPack]

/-- A pack for which a number is not left open is bound to one argument or to another number of
them. -/
theorem binding_of_not_leavesOpen {count : Nat} (isPack : pack.isPack = true)
    (closed : ¬ (map.packSize pack).LeavesOpen count) :
    (∃ argument, map.binding? pack.id = some (.single argument)) ∨
      ∃ size, map.BindsPack pack size ∧ size ≠ count := by
  cases bound : map.binding? pack.id with
  | none => exact absurd (.inl (packSize_eq_deferred.mpr ⟨isPack, bound⟩)) closed
  | some found =>
    cases found with
    | single argument => exact .inl ⟨argument, rfl⟩
    | pack arguments =>
      have binds : map.BindsPack pack arguments.length := ⟨arguments, bound, rfl⟩
      refine .inr ⟨arguments.length, binds, fun same => closed (.inr (.inr ?_))⟩
      rw [(packSize_eq_count_of_isPack isPack).mpr binds, same]

end Substitution

namespace Expr

variable {map : Substitution} {expr : Expr}

/-- A search agrees with a number exactly when every pack shown is bound to as many arguments. -/
theorem agrees_iff_bindsPack {size : Nat} : (expr.visiblePackSize map).Agrees size ↔
    ∀ pack, expr.Shows pack → map.BindsPack pack size := by
  rw [agrees_iff]
  exact forall₂_congr fun pack shown => Substitution.packSize_eq_count_of_isPack shown.isPack

/-- A search finds a number exactly when some pack is shown and all are bound to as many
arguments. -/
theorem visiblePackSize_count_iff {size : Nat} : expr.visiblePackSize map = .count size ↔
    (∃ pack, expr.Shows pack) ∧ ∀ pack, expr.Shows pack → map.BindsPack pack size := by
  rw [← agrees_iff_bindsPack]
  constructor
  · exact fun sized => ⟨exists_shown sized, .inr sized⟩
  · rintro ⟨⟨pack, shown⟩, absent | sized⟩
    · exact absurd shown (visiblePackSize_absent_iff.mp absent pack)
    · exact sized

/-- A search fails only for a number that some pack does not leave open, whatever the number. -/
theorem exists_closed_of_failed (failed : expr.visiblePackSize map = .failed) (count : Nat) :
    ∃ pack, expr.Shows pack ∧ ¬ (map.packSize pack).LeavesOpen count := by
  refine Classical.byContradiction fun none => PackSize.not_leavesOpen_failed count (failed ▸ ?_)
  refine visiblePackSize_joint (PackSize.isJoint_leavesOpen count) fun pack shown => ?_
  exact Classical.byContradiction fun closed => none ⟨pack, shown, closed⟩

/-- A search fails only for a pack that is bound to one argument, or for two packs of different
sizes. -/
theorem exists_blamed_of_failed (failed : expr.visiblePackSize map = .failed) :
    (∃ pack argument, expr.Shows pack ∧ map.binding? pack.id = some (.single argument)) ∨
      ∃ pack other size otherSize, expr.Shows pack ∧ expr.Shows other ∧
        map.BindsPack pack size ∧ map.BindsPack other otherSize ∧ size ≠ otherSize := by
  -- A pack that does not leave open the number 0 has a number of elements, and this one is closed
  -- by another pack.
  obtain ⟨pack, shown, closed⟩ := exists_closed_of_failed failed 0
  rcases Substitution.binding_of_not_leavesOpen shown.isPack closed with
    ⟨argument, single⟩ | ⟨size, binds, -⟩
  · exact .inl ⟨pack, argument, shown, single⟩
  · obtain ⟨other, otherShown, otherClosed⟩ := exists_closed_of_failed failed size
    rcases Substitution.binding_of_not_leavesOpen otherShown.isPack otherClosed with
      ⟨argument, single⟩ | ⟨otherSize, otherBinds, differ⟩
    · exact .inl ⟨other, argument, otherShown, single⟩
    · exact .inr ⟨pack, other, size, otherSize, shown, otherShown, binds, otherBinds, differ.symm⟩

/-- What the size of the packs of a tree says about the packs that are shown in what is searched:
the tree, or the pattern of an expansion. -/
structure SizesPacks (map : Substitution) (expr : Expr) : Prop where
  /-- No pack is found exactly when none is shown. -/
  absent : expr.packSize map = .absent ↔ ∀ pack, ¬ expr.measured.Shows pack
  /-- A number is found exactly when some pack is shown and every pack shown is bound to as many
  arguments. -/
  count (size : Nat) : expr.packSize map = .count size ↔
    (∃ pack, expr.measured.Shows pack) ∧
      ∀ pack, expr.measured.Shows pack → map.BindsPack pack size
  /-- The size is deferred only if some pack shown is not bound. -/
  deferred : expr.packSize map = .deferred →
    ∃ pack, expr.measured.Shows pack ∧ map.binding? pack.id = none
  /-- The size fails only if some pack shown is bound to one argument, or if two packs shown are
  bound to different numbers of arguments. -/
  failed : expr.packSize map = .failed →
    (∃ pack argument, expr.measured.Shows pack ∧
        map.binding? pack.id = some (.single argument)) ∨
      ∃ pack other size otherSize, expr.measured.Shows pack ∧ expr.measured.Shows other ∧
        map.BindsPack pack size ∧ map.BindsPack other otherSize ∧ size ≠ otherSize
  /-- A size that is not deferred stays whatever else is bound. -/
  settled (larger : Substitution) : larger.Extends map → expr.packSize map ≠ .deferred →
    expr.packSize larger = expr.packSize map

end Expr

/-- The size of the packs of an expansion is sound, complete and stable, for all trees and
substitutions. -/
theorem packSize_exact (map : Substitution) (expr : Expr) : expr.SizesPacks map := by
  refine ⟨?_, fun size => ?_, ?_, ?_, fun larger extends_ => ?_⟩
  · rw [Expr.packSize_eq]
    exact Expr.visiblePackSize_absent_iff
  · rw [Expr.packSize_eq]
    exact Expr.visiblePackSize_count_iff
  · rw [Expr.packSize_eq]
    exact Expr.exists_unbound_of_deferred
  · rw [Expr.packSize_eq]
    exact Expr.exists_blamed_of_failed
  · rw [Expr.packSize_eq, Expr.packSize_eq]
    exact Expr.visiblePackSize_extends extends_

end ConstExpr
