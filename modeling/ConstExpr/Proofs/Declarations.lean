import ConstExpr.Proofs.Tree

/-!
# Properties of declarations

What holds of every tree that an evaluation can enter from a tree: of the bodies of functions and of
the initializers of usable variables. The type of a tree is known when neither the tree nor a
declaration depends on a template parameter (`Expr.typeOf_independent`).
-/
namespace ConstExpr

/-- Every node of the tree has a form with the property, and so have the nodes of all bodies and
initializers that an evaluation can enter. -/
structure Scope.Everywhere (scope : Scope) (property : Form Expr → Prop) (expr : Expr) : Prop where
  /-- The nodes of the tree. -/
  tree : expr.Every property
  /-- The nodes of the bodies. -/
  bodies : ∀ id decl body, scope.functionDecl? id = some decl → decl.body = some body →
    body.Every property
  /-- The nodes of the initializers. -/
  initializers : ∀ id initializer, scope.constantInitializer? id = some initializer →
    initializer.Every property

/-- The declarations do not depend on template parameters. -/
structure Scope.IsIndependent (scope : Scope) : Prop where
  /-- The return types are known. -/
  returns : ∀ id decl, scope.functionDecl? id = some decl → decl.returnType.isDependent = false
  /-- The parameter types are known. -/
  parameters : ∀ id decl, scope.functionDecl? id = some decl →
    ∀ type ∈ decl.parameters, type.isDependent = false
  /-- The types in the bodies are known. -/
  bodies : ∀ id decl body, scope.functionDecl? id = some decl → decl.body = some body →
    body.isTypeDependent = false
  /-- The types in the initializers are known. -/
  initializers : ∀ id initializer, scope.constantInitializer? id = some initializer →
    initializer.isTypeDependent = false

section Tables

variable {table : Table}

/-- What holds of all functions of a table holds of each that is found. -/
theorem Table.forall_found {property : FunctionDecl → Prop}
    (each : ∀ decl ∈ table.functionDecls, property decl) :
    ∀ id decl, table.scope.functionDecl? id = some decl → property decl :=
  fun _ decl found => each decl (List.mem_of_getElem? found)

/-- What holds of the bodies of all functions of a table holds of each that is found. -/
theorem Table.forall_bodies {property : FunctionDecl → Expr → Prop}
    (each : ∀ decl ∈ table.functionDecls, ∀ body ∈ decl.body, property decl body) :
    ∀ id decl body, table.scope.functionDecl? id = some decl → decl.body = some body →
      property decl body :=
  fun _ decl body found => each decl (List.mem_of_getElem? found) body

/-- What holds of the initializers of all variables of a table holds of each that can be used. -/
theorem Table.forall_usable {property : Expr → Prop}
    (each : ∀ decl ∈ table.variableDecls, ∀ initializer ∈ decl.initializer, property initializer) :
    ∀ id initializer, table.scope.constantInitializer? id = some initializer →
      property initializer := by
  intro id initializer usable
  obtain ⟨decl, found, usable⟩ := Option.bind_eq_some_iff.mp usable
  unfold VariableDecl.constantInitializer? at usable
  split at usable
  · exact each decl (List.mem_of_getElem? found) initializer usable
  · contradiction

/-- What holds of every node of a tree, and of all bodies and initializers of a table, holds
everywhere. -/
theorem Table.everywhere {property : Form Expr → Prop} {expr : Expr} (tree : expr.Every property)
    (bodies : ∀ decl ∈ table.functionDecls, ∀ body ∈ decl.body, body.Every property)
    (initializers : ∀ decl ∈ table.variableDecls, ∀ initializer ∈ decl.initializer,
      initializer.Every property) : table.scope.Everywhere property expr :=
  ⟨tree, table.forall_bodies bodies, table.forall_usable initializers⟩

/-- Nothing is declared in the empty table. -/
theorem Table.empty_isIndependent : Table.empty.scope.IsIndependent :=
  ⟨Table.forall_found (List.forall_mem_nil _), Table.forall_found (List.forall_mem_nil _),
    Table.forall_bodies (List.forall_mem_nil _), Table.forall_usable (List.forall_mem_nil _)⟩

end Tables

/-- The type of an expression is known when it is not type-dependent and functions return types
that are known. -/
theorem Expr.typeOf_independent {scope : Scope} {expr : Expr}
    (returns : ∀ id decl, scope.functionDecl? id = some decl → decl.returnType.isDependent = false)
    (independent : expr.isTypeDependent = false) : (expr.typeOf scope).isDependent = false := by
  rw [Expr.typeOf_eq_plainType independent]
  induction expr using Expr.induction with
  | step form template ih =>
    obtain ⟨own, below⟩ := independent_iff.mp independent
    rw [plainType]
    cases form with
    | fixed => exact own
    | templateRef | variableRef | construct =>
      exact (Ty.isDependent_withoutReference _).trans own
    | parameterRef =>
      exact (Ty.isDependent_withoutReference _).trans (Bool.or_eq_false_iff.mp own).2
    | unary operator operand =>
      exact UnaryOperator.resultType_independent
        (ih operand (by simp [Form.children]) (below operand (by simp [Form.children])))
    | binary operator left right =>
      exact BinaryOperator.resultType_independent
        (ih left (by simp [Form.children]) (below left (by simp [Form.children])))
    | typeTrait operator type =>
      simp only [plainFormType, TypeOperator.resultType]
      split <;> rfl
    | conditional condition positive negative =>
      exact Ty.merge_independent
        (ih positive (by simp [Form.children]) (below positive (by simp [Form.children])))
    | comma operands =>
      cases found : operands.getLast? with
      | none =>
        rw [List.getLast?_eq_none_iff.mp found]
        rfl
      | some last =>
        rw [plainFormType, plainLastType_eq found]
        exact ih last (List.mem_of_getLast? found) (below last (List.mem_of_getLast? found))
    | call callee arguments =>
      rw [plainFormType]
      split
      · next decl reached =>
        obtain ⟨id, -, declared⟩ := Option.bind_eq_some_iff.mp reached
        exact (Ty.isDependent_withoutReference _).trans (returns id decl declared)
      · rfl
    | overloads | braced => rfl
    | expansion => contradiction

end ConstExpr
