import ConstExpr.Proofs.Declarations
import Mathlib.Logic.Relation

/-!
# Declarations that an expression reaches

An expression names the candidates of its overload sets and its variables, and with them it reaches
what their bodies and initializers name in turn, however these refer to each other. What is reached
is the same in all scopes that agree on it (`reaches_iff_of_agree`), so a table agrees with what
becomes of it when declarations are added and bodies out of reach are replaced
(`Table.agree_of_revisions`).
-/
namespace ConstExpr

/-- The number of a function or of a variable. -/
inductive DeclarationId where
  /-- A function. -/
  | ofFunction (id : FunctionId)
  /-- A variable. -/
  | ofVariable (id : VariableId)

/-- The declarations that a form names by itself. -/
inductive Form.Names {α : Type} : Form α → DeclarationId → Prop where
  /-- A candidate of an overload set. -/
  | candidate {set : OverloadSet} {id : FunctionId} (member : id ∈ set.candidates) :
    Names (.overloads set) (.ofFunction id)
  /-- A variable. -/
  | mention (id : VariableId) (type : Ty) : Names (.variableRef id type) (.ofVariable id)

/-- All declarations that the form names are known ones. -/
def Form.NamesOnly {α : Type} (known : DeclarationId → Prop) (form : Form α) : Prop :=
  ∀ id, form.Names id → known id

/-- All declarations that the tree names are known ones. -/
def Expr.NamesOnly (known : DeclarationId → Prop) (expr : Expr) : Prop :=
  expr.Every (Form.NamesOnly known)

namespace Scope

/-- The declaration is found. -/
def Declares (scope : Scope) : DeclarationId → Prop
  | .ofFunction id => (scope.functionDecl? id).isSome = true
  | .ofVariable id => (scope.variableDecl? id).isSome = true

/-- The body of a function, or the initializer of a variable. -/
def definition? (scope : Scope) : DeclarationId → Option Expr
  | .ofFunction id => (scope.functionDecl? id).bind FunctionDecl.body
  | .ofVariable id => (scope.variableDecl? id).bind VariableDecl.initializer

/-- Both scopes have the same declaration of this number, or both have none. -/
def AgreesOn (scope other : Scope) : DeclarationId → Prop
  | .ofFunction id => scope.functionDecl? id = other.functionDecl? id
  | .ofVariable id => scope.variableDecl? id = other.variableDecl? id

/-- The declarations that the tree names, and those that the bodies and initializers of declarations
that it reaches name. -/
inductive Reaches (scope : Scope) (expr : Expr) : DeclarationId → Prop where
  /-- A declaration that the tree names. -/
  | named {part : Expr} {id : DeclarationId} (inside : expr.Contains part)
    (names : part.form.Names id) : Reaches scope expr id
  /-- A declaration that a body or an initializer names. -/
  | defined {via id : DeclarationId} {tree part : Expr} (reached : Reaches scope expr via)
    (definition : scope.definition? via = some tree) (inside : tree.Contains part)
    (names : part.form.Names id) : Reaches scope expr id

/-- The scopes agree on all declarations that the tree reaches in the first one. -/
def AgreeOnReached (scope other : Scope) (expr : Expr) : Prop :=
  ∀ id, scope.Reaches expr id → scope.AgreesOn other id

/-- The scopes agree on known declarations, whose bodies and initializers name only such. -/
structure AgreeWithin (scope other : Scope) (known : DeclarationId → Prop) : Prop where
  /-- The declarations are the same. -/
  same : ∀ id, known id → scope.AgreesOn other id
  /-- Bodies and initializers name only known declarations. -/
  closed : ∀ id tree, known id → scope.definition? id = some tree → tree.NamesOnly known

section Agreement

variable {scope other : Scope} {expr : Expr} {id : DeclarationId}

/-- A tree names only what it reaches. -/
theorem namesOnly_reached (scope : Scope) (expr : Expr) : expr.NamesOnly (scope.Reaches expr) :=
  fun _ inside _ names => .named inside names

/-- What is reached is in each set that has the names in the tree and in the definitions of its
members. -/
theorem known_of_reaches {known : DeclarationId → Prop} (named : expr.NamesOnly known)
    (closed : ∀ id tree, known id → scope.definition? id = some tree → tree.NamesOnly known)
    (reached : scope.Reaches expr id) : known id := by
  induction reached with
  | named inside names => exact named _ inside _ names
  | defined _ definition inside names ih => exact closed _ _ ih definition _ inside _ names

/-- Scopes that agree on what a tree reaches agree within it. -/
theorem AgreeOnReached.within (agree : scope.AgreeOnReached other expr) :
    scope.AgreeWithin other (scope.Reaches expr) :=
  ⟨agree, fun _ _ reached definition _ inside _ names => .defined reached definition inside names⟩

/-- The initializer to use for a variable is the one that it has. -/
theorem definition_of_usable {id : VariableId} {initializer : Expr}
    (usable : scope.constantInitializer? id = some initializer) :
    scope.definition? (.ofVariable id) = some initializer := by
  obtain ⟨decl, found, usable⟩ := Option.bind_eq_some_iff.mp usable
  unfold VariableDecl.constantInitializer? at usable
  split at usable
  · rw [definition?, found, Option.bind_some, usable]
  · contradiction

/-- Scopes that agree on a declaration have the same body or initializer for it. -/
theorem AgreesOn.definition (agrees : scope.AgreesOn other id) :
    scope.definition? id = other.definition? id := by
  cases id with
  | ofFunction id => exact congrArg (Option.bind · FunctionDecl.body) agrees
  | ofVariable id => exact congrArg (Option.bind · VariableDecl.initializer) agrees

/-- Scopes that agree on a declaration declare it together. -/
theorem AgreesOn.declares (agrees : scope.AgreesOn other id) (declared : scope.Declares id) :
    other.Declares id := by
  cases id with
  | ofFunction id => exact (congrArg Option.isSome agrees).symm.trans declared
  | ofVariable id => exact (congrArg Option.isSome agrees).symm.trans declared

/-- To agree on a declaration is symmetric. -/
theorem AgreesOn.symm (agrees : scope.AgreesOn other id) : other.AgreesOn scope id := by
  cases id with
  | ofFunction id => exact Eq.symm agrees
  | ofVariable id => exact Eq.symm agrees

/-- Scopes that agree on a declaration with a third one agree on it. -/
theorem AgreesOn.trans {third : Scope} (first : scope.AgreesOn other id)
    (second : other.AgreesOn third id) : scope.AgreesOn third id := by
  cases id with
  | ofFunction id => exact Eq.trans first second
  | ofVariable id => exact Eq.trans first second

/-- A tree reaches the same in scopes that agree on what it reaches in one of them. -/
theorem reaches_iff_of_agree (agree : scope.AgreeOnReached other expr) :
    other.Reaches expr id ↔ scope.Reaches expr id := by
  constructor
  · intro reached
    induction reached with
    | named inside names => exact .named inside names
    | defined _ definition inside names ih =>
      exact .defined ih ((agree _ ih).definition.trans definition) inside names
  · intro reached
    induction reached with
    | named inside names => exact .named inside names
    | defined reached definition inside names ih =>
      exact .defined ih ((agree _ reached).definition.symm.trans definition) inside names

end Agreement

end Scope

namespace Expr

variable {known : DeclarationId → Prop} {form : Form Expr} {expr : Expr}

/-- The candidates of a set that is named by a tree of known names are known. -/
theorem NamesOnly.candidates (named : expr.NamesOnly known) {set : OverloadSet}
    (isSet : expr.overloadSet? = some set) :
    ∀ id ∈ set.candidates, known (.ofFunction id) := by
  obtain ⟨form, template⟩ := expr
  cases form with
  | overloads other =>
    obtain rfl := Option.some.inj isSet
    exact fun id member => named.root _ (.candidate member)
  | _ => contradiction

/-- A literal names nothing. -/
theorem namesOnly_fixed (type : Ty) (value : Value) (category : Category)
    (template : Option TemplateId) :
    (node (.fixed type value category) template).NamesOnly known := by
  refine every_node.mpr ⟨?_, List.forall_mem_nil _⟩
  rintro _ ⟨⟩

/-- A node of known names has children of such. -/
theorem namesOnly_derive {origin : Expr} (own : form.NamesOnly known)
    (children : ∀ child ∈ form.children, child.NamesOnly known) :
    (origin.derive form).NamesOnly known :=
  every_node.mpr ⟨own, children⟩

end Expr

namespace Scope.AgreeWithin

variable {scope other : Scope} {known : DeclarationId → Prop}
  (agree : scope.AgreeWithin other known)

include agree

/-- Overload sets of known candidates resolve to the same function. -/
theorem resolve {set : OverloadSet} (named : ∀ id ∈ set.candidates, known (.ofFunction id))
    (arity : Nat) : scope.resolve set arity = other.resolve set arity := by
  have accepts : ∀ id ∈ set.candidates, scope.accepts arity id = other.accepts arity id := by
    intro id member
    rw [Scope.accepts, Scope.accepts, show scope.functionDecl? id = other.functionDecl? id from
      agree.same _ (named id member)]
  rw [Scope.resolve, Scope.resolve, List.filter_congr accepts]

/-- What known candidates resolve to is the same declaration. -/
theorem resolved {set : OverloadSet} (named : ∀ id ∈ set.candidates, known (.ofFunction id))
    {arity : Nat} {id : FunctionId} (resolved : scope.resolve set arity = some id) :
    scope.functionDecl? id = other.functionDecl? id :=
  agree.same _ (named id (resolve_spec resolved).1)

/-- Callees of known names reach the same declaration. -/
theorem targetDecl {callee : Expr} (named : callee.NamesOnly known) (arguments : List Expr) :
    scope.targetDecl callee arguments = other.targetDecl callee arguments := by
  unfold Scope.targetDecl Scope.target
  split
  · rfl
  · cases isSet : callee.overloadSet? with
    | none => rfl
    | some set =>
      rw [Option.bind_some, Option.bind_some, ← agree.resolve (named.candidates isSet)]
      cases found : scope.resolve set arguments.length with
      | none => rfl
      | some id => exact agree.resolved (named.candidates isSet) found

/-- Known variables have the same initializers. -/
theorem constantInitializer {id : VariableId} (named : known (.ofVariable id)) :
    scope.constantInitializer? id = other.constantInitializer? id :=
  congrArg (Option.bind · VariableDecl.constantInitializer?) (agree.same _ named)

end Scope.AgreeWithin

namespace Table

/-- One declaration is added to a table, or a function out of reach of the tree gets another
body. -/
inductive Revision (expr : Expr) : Table → Table → Prop where
  /-- A function is added. -/
  | addFunction (table : Table) (decl : FunctionDecl) :
    Revision expr table (table.addFunction decl).1
  /-- A variable is added. -/
  | addVariable (table : Table) (decl : VariableDecl) :
    Revision expr table (table.addVariable decl).1
  /-- A function that is not reached gets another body. -/
  | setBody {table later : Table} {id : FunctionId} {body : Expr}
    (unreached : ¬ table.scope.Reaches expr (.ofFunction id))
    (replaced : table.setBody id body = some later) : Revision expr table later

/-- Everything that the tree reaches is declared in the table. -/
def DeclaresReached (table : Table) (expr : Expr) : Prop :=
  ∀ id, table.scope.Reaches expr id → table.scope.Declares id

variable {expr : Expr} {table later : Table}

/-- A revision leaves everything that is reached as it is. -/
theorem Revision.agree (declared : table.DeclaresReached expr)
    (revision : Revision expr table later) :
    table.scope.AgreeOnReached later.scope expr := by
  intro id reached
  have found := declared id reached
  cases revision with
  | addFunction decl =>
    cases id with
    | ofFunction id =>
      exact (List.getElem?_append_left ((isSome_getElem? _ id.index).mp found)).symm
    | ofVariable id => rfl
  | addVariable decl =>
    cases id with
    | ofFunction id => rfl
    | ofVariable id =>
      exact (List.getElem?_append_left ((isSome_getElem? _ id.index).mp found)).symm
  | @setBody _ changed body unreached replaced =>
    obtain ⟨decl, -, rfl⟩ := Option.map_eq_some_iff.mp replaced
    cases id with
    | ofFunction id =>
      have differs : changed.index ≠ id.index := by
        intro same
        rw [show changed = id from congrArg FunctionId.mk same] at unreached
        exact unreached reached
      exact (List.getElem?_set_ne differs).symm
    | ofVariable id => rfl

/-- Any number of revisions leave everything that is reached as it is. -/
theorem agree_of_revisions (declared : table.DeclaresReached expr)
    (revisions : Relation.ReflTransGen (Revision expr) table later) :
    table.scope.AgreeOnReached later.scope expr := by
  induction revisions with
  | refl => exact fun id _ => by cases id <;> rfl
  | @tail middle later _ revision ih =>
    -- The tree reaches the same in the table before the last revision, and that is declared there.
    have declared' : middle.DeclaresReached expr := fun id reached =>
      have before := (Scope.reaches_iff_of_agree ih).mp reached
      (ih id before).declares (declared id before)
    intro id reached
    exact (ih id reached).trans
      (revision.agree declared' id ((Scope.reaches_iff_of_agree ih).mpr reached))

end Table

end ConstExpr
