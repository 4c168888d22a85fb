import ConstExpr.Diagnostic.Basic
import ConstExpr.Evaluate.Budget
import ConstExpr.Scope

/-!
# Reports of failed evaluations

A failure of a constant evaluation becomes a diagnostic of severity error, at the span of the
expression that was evaluated. Functions are called by their names where the scope knows them.
-/
namespace ConstExpr

/-- The name of a function in quotes, or its number where it is not declared. -/
def Scope.functionName (scope : Scope) (id : FunctionId) : String :=
  match scope.functionDecl? id with
  | some decl => "`" ++ decl.name ++ "`"
  | none => id.text

namespace Failure

/-- What is said of a failure, to a user who sees the source. -/
def explanation (scope : Scope) : Failure → String
  | stepLimitExceeded _ limit none =>
    "constant evaluation exceeded the limit of " ++ toString limit ++ " steps"
  | stepLimitExceeded _ limit (some call) =>
    "constant evaluation of the call to " ++ scope.functionName call ++
      " exceeded the limit of " ++ toString limit ++ " steps"
  | nonConstexprFunction function =>
    scope.functionName function ++ " can't be called in a constant expression"
  | missingDefinition function =>
    scope.functionName function ++ " is called before its definition is known"
  | modification =>
    "the expression modifies an object, which isn't allowed in a constant expression"
  | other => "the expression isn't constant: " ++ other.message

/-- What could be done about a failure. -/
def help : Failure → Option String
  | stepLimitExceeded .. =>
    some "the recursion may not terminate; otherwise raise the step limit"
  | nonConstexprFunction _ => some "declare the function `constexpr`"
  | modification => some "assignments and increments can't be evaluated at compile time"
  | _ => none

/-- The diagnostic of a failure at a span. -/
def report (scope : Scope) (span : Span) (failure : Failure) : Diagnostic where
  span := span
  message := failure.explanation scope
  severity := .error
  help := failure.help
  related := []

end Failure

end ConstExpr
