import ConstExpr.Proofs.Evaluate.Outcomes
import ConstExpr.Proofs.Evaluate.Session
import ConstExpr.Request

/-!
# Reports of requests

A request reports exactly its failure (`evaluate_reports`): one diagnostic where the constant
evaluation of the instantiated expression fails, which is not attempted on a dependent expression,
and none otherwise. Whether the limit on steps was met decides no more than that, so a request
without a report has the same outcome under every greater limit. Nothing is assumed of the tables
or of the log that the report goes to.
-/
namespace ConstExpr

namespace Request

/-- The instantiated expression is evaluated, and the evaluation fails. -/
def FailsWith (request : Request) (failure : Failure) : Prop :=
  request.instantiated.isValueDependent = false ∧
    (request.instantiated.constantValue request.scope).outcome
      (Budget.fresh request.limits.steps) = .error failure

/-- The request with another limit on the steps of the evaluation. -/
def withSteps (request : Request) (steps : Nat) : Request :=
  { request with limits := { request.limits with steps := steps } }

/-- What the request answers and reports to a log that keeps its diagnostics. -/
structure Reports (request : Request) (log : DiagnosticLog) : Prop where
  /-- A failure is reported by one more diagnostic, an error at the span of the request, and leaves
  the value unknown. -/
  failing : ∀ failure, request.FailsWith failure →
    (∃ diagnostic, (request.evaluate .keep log).2.diagnostics = log.diagnostics ++ [diagnostic] ∧
      diagnostic.severity = .error ∧ diagnostic.span = request.span) ∧
    (request.evaluate .keep log).1.value = .unknown
  /-- Nothing is reported without a failure. -/
  silent : (∀ failure, ¬request.FailsWith failure) → (request.evaluate .keep log).2 = log
  /-- A dependent expression has a dependent value, for no step. -/
  dependent : request.instantiated.isValueDependent = true →
    (request.evaluate .keep log).1.value = .dependent ∧ (request.evaluate .keep log).1.steps = 0
  /-- No more steps are performed than the limit allows. -/
  within : (request.evaluate .keep log).1.steps ≤ request.limits.steps
  /-- A refused step comes after exactly as many steps as the limit allows. -/
  exhausted : ∀ performed limit call, request.FailsWith (.stepLimitExceeded performed limit call) →
    (request.evaluate .keep log).1.steps = request.limits.steps
  /-- Without a report, a greater limit changes nothing. -/
  steady : (request.evaluate .keep log).2 = log → ∀ steps, request.limits.steps ≤ steps →
    (request.withSteps steps).evaluate .keep log = request.evaluate .keep log

section Lemmas

variable {request : Request} (log : DiagnosticLog)

/-- A dependent expression is not evaluated. -/
theorem evaluate_of_dependent (dependent : request.instantiated.isValueDependent = true) :
    request.evaluate .keep log = (Outcome.describe request.scope request.instantiated .dependent
      (Budget.fresh request.limits.steps), log) := by
  simp only [evaluate, evaluation, dependent, if_true]

variable (independent : request.instantiated.isValueDependent = false)

include independent

/-- A value that is found is answered, and nothing is reported. -/
theorem evaluate_of_ok {value : Value} {left : Budget}
    (found : request.instantiated.constantValue request.scope (Budget.fresh request.limits.steps) =
      .ok value left) :
    request.evaluate .keep log =
      (Outcome.describe request.scope request.instantiated value left, log) := by
  simp only [evaluate, evaluation, independent, Bool.false_eq_true, if_false, EStateM.run, found]

/-- A failure is reported, and the value is unknown. -/
theorem evaluate_of_error {failure : Failure} {left : Budget}
    (failed : request.instantiated.constantValue request.scope
      (Budget.fresh request.limits.steps) = .error failure left) :
    request.evaluate .keep log =
      (Outcome.describe request.scope request.instantiated .unknown left,
        log.receive (failure.report request.scope request.span)) := by
  simp only [evaluate, evaluation, independent, Bool.false_eq_true, if_false, EStateM.run, failed,
    Handler.receive]

/-- The outcome tells the steps that the evaluation has spent. -/
theorem steps_evaluate :
    (request.evaluate .keep log).1.steps =
      ((request.instantiated.constantValue request.scope).rest
        (Budget.fresh request.limits.steps)).performed := by
  cases ran : request.instantiated.constantValue request.scope
    (Budget.fresh request.limits.steps) with
  | ok value left =>
    rw [evaluate_of_ok log independent ran, Evaluation.rest, ran]
    rfl
  | error failure left =>
    rw [evaluate_of_error log independent ran, Evaluation.rest, ran]
    rfl

end Lemmas

/-- A log with one more diagnostic is another log. -/
theorem receive_ne (log : DiagnosticLog) (diagnostic : Diagnostic) :
    log.receive diagnostic ≠ log := fun same => by
  have longer := congrArg (fun log => log.diagnostics.length) same
  simp only [DiagnosticLog.receive, List.length_append, List.length_singleton] at longer
  omega

section Endings

variable {request : Request} (log : DiagnosticLog)

/-- A request reports what it promises if its expression is dependent. -/
theorem reports_of_dependent (dependent : request.instantiated.isValueDependent = true) :
    request.Reports log := by
  have never (failure : Failure) (fails : request.FailsWith failure) : False := by
    rw [FailsWith, dependent] at fails
    exact Bool.noConfusion fails.1
  have answered := evaluate_of_dependent log dependent
  refine ⟨fun failure fails => (never failure fails).elim, fun _ => by rw [answered],
    fun _ => by rw [answered]; exact ⟨rfl, rfl⟩, by rw [answered]; exact Nat.zero_le _,
    fun _ _ _ fails => (never _ fails).elim, fun _ steps _ => ?_⟩
  rw [answered]
  exact @evaluate_of_dependent (request.withSteps steps) log dependent

variable (independent : request.instantiated.isValueDependent = false)

include independent

open Evaluation

/-- No more steps are performed than the limit allows. -/
theorem steps_evaluate_le : (request.evaluate .keep log).1.steps ≤ request.limits.steps := by
  obtain ⟨spent, paid, left⟩ := (request.instantiated.constantValue_metered request.scope).spends
    (Budget.fresh request.limits.steps)
  rw [steps_evaluate log independent, left, Budget.spend, Budget.fresh, Nat.zero_add]
  exact paid

/-- A request reports what it promises if a value is found, which takes the same steps under every
greater limit. -/
theorem reports_of_ok {value : Value} {left : Budget}
    (found : request.instantiated.constantValue request.scope
      (Budget.fresh request.limits.steps) = .ok value left) : request.Reports log := by
  have metered := request.instantiated.constantValue_metered request.scope
  have never (failure : Failure) (fails : request.FailsWith failure) : False := by
    simp only [FailsWith, outcome, found] at fails
    cases fails.2
  have answered := evaluate_of_ok log independent found
  refine ⟨fun failure fails => (never failure fails).elim, fun _ => by rw [answered],
    fun dependent => ?_, steps_evaluate_le log independent,
    fun _ _ _ fails => (never _ fails).elim, fun _ steps more => ?_⟩
  · rw [independent] at dependent
    contradiction
  · obtain ⟨taken, paid, completes, rfl⟩ := metered.paid found
    have again := completes.enough (Budget.fresh steps) (Nat.le_trans paid more)
    rw [answered]
    exact @evaluate_of_ok (request.withSteps steps) log independent value
      ((Budget.fresh steps).spend taken) again

/-- A request reports what it promises if the evaluation fails, at the limit if it is for want of a
step. -/
theorem reports_of_error {failure : Failure} {left : Budget}
    (failed : request.instantiated.constantValue request.scope
      (Budget.fresh request.limits.steps) = .error failure left) : request.Reports log := by
  have metered := request.instantiated.constantValue_metered request.scope
  have answered := evaluate_of_error log independent failed
  refine ⟨fun _ _ => ?_, fun silent => ?_, fun dependent => ?_, steps_evaluate_le log independent,
    fun performed limit call fails => ?_, fun silent => ?_⟩
  · rw [answered]
    exact ⟨⟨_, rfl, rfl, rfl⟩, rfl⟩
  · exact absurd ⟨independent, by rw [outcome, failed]⟩ (silent failure)
  · rw [independent] at dependent
    contradiction
  · obtain ⟨other, refused⟩ := (metered.runsOut fails.2).at_limit (Nat.zero_le _)
    rw [steps_evaluate log independent, rest, refused]
    rfl
  · rw [answered] at silent
    exact absurd silent (receive_ne log _)

end Endings

end Request

open Request

/-- Every request reports exactly its failure, performs no more steps than its limit allows, and
answers the same under a greater limit unless it reports one. -/
theorem evaluate_reports (request : Request) (log : DiagnosticLog) : request.Reports log := by
  cases depends : request.instantiated.isValueDependent with
  | true => exact reports_of_dependent log depends
  | false =>
    cases ran : request.instantiated.constantValue request.scope
      (Budget.fresh request.limits.steps) with
    | ok value left => exact reports_of_ok log depends ran
    | error failure left => exact reports_of_error log depends ran

end ConstExpr
