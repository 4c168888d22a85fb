import ConstExpr.Proofs.Evaluate.Metering
import ConstExpr.Proofs.Evaluate.Simulation

/-!
# Outcomes of evaluations

Two evaluations have the same outcome when, given enough steps, both fail for the same reason or
both come to related answers, whatever number of steps either takes, or when neither has an outcome
from any budget. To have the same outcome is a simulation, in which either side can go on by itself.
-/
namespace ConstExpr

open Evaluation

namespace Evaluation

variable {α α' β β' : Type} {answers : α → α' → Prop} {answers' : β → β' → Prop}

/-- The evaluations come to the same outcome, each given enough steps. -/
inductive SameOutcome (answers : α → α' → Prop) (first : Evaluation α) (second : Evaluation α') :
    Prop where
  /-- Both fail for the same reason. -/
  | failed {failure : Failure} {steps steps' : Nat}
    (fails : first.Completes (.error failure) steps)
    (fails' : second.Completes (.error failure) steps')
  /-- Both come to answers, which are related. -/
  | answered {answer : α} {answer' : α'} {steps steps' : Nat}
    (completes : first.Completes (.ok answer) steps)
    (completes' : second.Completes (.ok answer') steps') (related : answers answer answer')
  /-- No number of steps is enough. -/
  | endless (diverges : ∀ budget, first.RunsOut budget) (diverges' : ∀ budget, second.RunsOut budget)

/-- An evaluation that completes with an answer completes with no other. -/
theorem Completes.answer_unique {run : Evaluation α} {answer other : α} {steps steps' : Nat}
    (first : run.Completes (.ok answer) steps) (second : run.Completes (.ok other) steps') :
    other = answer :=
  Except.ok.inj (first.unique second rfl).1

/-- An evaluation that completes with an answer does not fail. -/
theorem Completes.not_failed {run : Evaluation α} {answer : α} {failure : Failure}
    {steps steps' : Nat} (first : run.Completes (.ok answer) steps)
    (second : run.Completes (.error failure) steps') : False := by
  have same := (first.unique second rfl).1
  contradiction

/-- An evaluation that completes with an answer does not run out of all budgets. -/
theorem Completes.not_endless {run : Evaluation α} {answer : α} {steps : Nat}
    (completes : run.Completes (.ok answer) steps) (diverges : ∀ budget, run.RunsOut budget) :
    False := by
  obtain ⟨call, failed⟩ := diverges ⟨0, steps⟩
  rw [completes.enough ⟨0, steps⟩ (Nat.le_refl _)] at failed
  contradiction

/-- What a metered evaluation answers from some budget is what it completes with. -/
theorem Metered.completes {run : Evaluation α} (metered : Metered run) {budget left : Budget}
    {answer : α} (answered : run budget = .ok answer left) :
    ∃ steps, run.Completes (.ok answer) steps ∧ left = budget.spend steps := by
  have settled (other : Evaluation α) (out : other.RunsOut budget)
      (same : other budget = .ok answer left) : False := by
    obtain ⟨call, failed⟩ := out
    rw [failed] at same
    contradiction
  obtain ⟨outcome, steps, completes⟩ | diverges := metered
  · by_cases paid : steps ≤ budget.remaining
    · have replied := completes.enough budget paid
      rw [answered] at replied
      cases outcome with
      | ok other =>
        obtain ⟨rfl, rfl⟩ := EStateM.Result.ok.inj replied
        exact ⟨steps, completes, rfl⟩
      | error => contradiction
    · exact (settled run (completes.short budget (Nat.lt_of_not_le paid)) answered).elim
  · exact (settled run (diverges budget) answered).elim

/-- What a metered evaluation answers it completes with, and the budget pays for it. -/
theorem Metered.paid {run : Evaluation α} (metered : Metered run) {budget left : Budget}
    {answer : α} (answered : run budget = .ok answer left) :
    ∃ taken ≤ budget.remaining, run.Completes (.ok answer) taken ∧ left = budget.spend taken := by
  obtain ⟨taken, completes, spent⟩ := metered.completes answered
  refine ⟨taken, Nat.le_of_not_lt fun fewer => ?_, completes, spent⟩
  obtain ⟨call, failed⟩ := completes.short budget fewer
  rw [answered] at failed
  contradiction

namespace SameOutcome

variable {first : Evaluation α} {first' : Evaluation α'} {next : α → Evaluation β}
  {next' : α' → Evaluation β'}

/-- Evaluations go on to the same outcome when what follows the answers that they come to does. -/
theorem bind_of_reached (firsts : SameOutcome answers first first')
    (nexts : ∀ answer answer' steps steps', first.Completes (.ok answer) steps →
      first'.Completes (.ok answer') steps' → answers answer answer' →
        SameOutcome answers' (next answer) (next' answer')) :
    SameOutcome answers' (first >>= next) (first' >>= next') := by
  cases firsts with
  | failed fails fails' => exact .failed (fails.bind_error next) (fails'.bind_error next')
  | answered completes completes' related =>
    cases nexts _ _ _ _ completes completes' related with
    | failed fails fails' => exact .failed (completes.bind fails) (completes'.bind fails')
    | answered later later' related =>
      exact .answered (completes.bind later) (completes'.bind later') related
    | endless diverges diverges' =>
      exact .endless (completes.bind_endless diverges) (completes'.bind_endless diverges')
  | endless diverges diverges' =>
    exact .endless (fun budget => (diverges budget).bind next)
      fun budget => (diverges' budget).bind next'

/-- The first evaluation goes on by itself. -/
theorem after_first {second : Evaluation β'} {answer : α} {steps : Nat}
    (completes : first.Completes (.ok answer) steps)
    (same : SameOutcome answers' (next answer) second) :
    SameOutcome answers' (first >>= next) second := by
  cases same with
  | failed fails fails' => exact .failed (completes.bind fails) fails'
  | answered later later' related => exact .answered (completes.bind later) later' related
  | endless diverges diverges' => exact .endless (completes.bind_endless diverges) diverges'

/-- The first evaluation changes nothing about its answer. -/
theorem map_first {change : α → α} (same : SameOutcome answers first first')
    (keeps : ∀ answer steps, first.Completes (.ok answer) steps → change answer = answer) :
    SameOutcome answers (first >>= fun answer => pure (change answer)) first' := by
  cases same with
  | failed fails fails' => exact .failed (fails.bind_error _) fails'
  | answered completes completes' related =>
    refine .answered (completes.bind (completes_pure _)) completes' ?_
    rwa [keeps _ _ completes]
  | endless diverges diverges' =>
    exact .endless (fun budget => (diverges budget).bind _) diverges'

/-- Related answers, and what is known of the evaluations that come to them. -/
theorem reached (same : SameOutcome answers first first') :
    SameOutcome (fun answer answer' => answers answer answer' ∧
      (∃ steps, first.Completes (.ok answer) steps) ∧
      ∃ steps, first'.Completes (.ok answer') steps) first first' := by
  cases same with
  | failed fails fails' => exact .failed fails fails'
  | answered completes completes' related =>
    exact .answered completes completes' ⟨related, ⟨_, completes⟩, ⟨_, completes'⟩⟩
  | endless diverges diverges' => exact .endless diverges diverges'

end SameOutcome

/-- To have the same outcome is kept by sequences and calls. -/
theorem sameOutcome_simulation : Simulation SameOutcome where
  pure related := .answered (completes_pure _) (completes_pure _) related
  throw _ raised := .failed (completes_throw raised) (completes_throw raised)
  step := .answered completes_step completes_step trivial
  bind firsts nexts := firsts.bind_of_reached fun _ _ _ _ _ _ => nexts _ _
  withinCall function bodies := by
    cases bodies with
    | failed fails fails' => exact .failed (fails.withinCall function) (fails'.withinCall function)
    | answered completes completes' related =>
      exact .answered (completes.withinCall function) (completes'.withinCall function) related
    | endless diverges diverges' =>
      exact .endless (fun budget => (diverges budget).withinCall function)
        fun budget => (diverges' budget).withinCall function

namespace LockStep

variable {first : Evaluation α} {second : Evaluation α'} {budget left : Budget}

/-- What fails in lock-step fails for the same reason. -/
theorem error (together : LockStep answers first second) {failure : Failure}
    (failed : first budget = .error failure left) : second budget = .error failure left := by
  have here := together budget
  rw [failed] at here
  cases result : second budget with
  | ok => simp only [result] at here
  | error =>
    simp only [result] at here
    rw [here.1, here.2]

/-- What answers in lock-step gives related answers. -/
theorem ok (together : LockStep answers first second) {answer : α}
    (answered : first budget = .ok answer left) :
    ∃ answer', second budget = .ok answer' left ∧ answers answer answer' := by
  have here := together budget
  rw [answered] at here
  cases result : second budget with
  | ok answer' =>
    simp only [result] at here
    exact ⟨answer', by rw [here.2], here.1⟩
  | error => simp only [result] at here

/-- What runs out in lock-step does so from the same budgets. -/
theorem runsOut (together : LockStep answers first second) (out : first.RunsOut budget) :
    second.RunsOut budget := by
  obtain ⟨call, failed⟩ := out
  exact ⟨call, together.error failed⟩

/-- Metered evaluations that go in lock-step have the same outcome. -/
theorem sameOutcome (together : LockStep answers first second) (metered : Metered first)
    (metered' : Metered second) : SameOutcome answers first second := by
  obtain ⟨outcome, steps, completes⟩ | diverges := metered
  · cases outcome with
    | error failure =>
      exact .failed completes ⟨fun _ same => Except.error.inj same ▸ completes.proper failure rfl,
        fun budget paid => together.error (completes.enough budget paid),
        fun budget fewer => together.runsOut (completes.short budget fewer)⟩
    | ok answer =>
      have paid : first ⟨0, steps⟩ = .ok answer (Budget.spend ⟨0, steps⟩ steps) :=
        completes.enough ⟨0, steps⟩ (Nat.le_refl _)
      obtain ⟨answer', answered, related⟩ := together.ok paid
      obtain ⟨steps', completes', -⟩ := metered'.completes answered
      exact .answered completes completes' related
  · exact .endless diverges fun budget => together.runsOut (diverges budget)

end LockStep

end Evaluation

/-- An evaluation has the same outcome for parameters that coincide where they are mentioned. -/
theorem evaluate_sameOutcome {scope : Scope} (declarations : scope.IsIndependent)
    {parameters parameters' : List Expr} {expr : Expr} (independent : expr.isTypeDependent = false)
    (bound : expr.Every (Form.BoundAlike parameters parameters')) :
    SameOutcome Expr.Coincides (expr.evaluate scope parameters)
      (expr.evaluate scope parameters') :=
  (evaluate_lockStep declarations independent bound).sameOutcome
    (expr.evaluate_metered scope parameters) (expr.evaluate_metered scope parameters')

end ConstExpr
