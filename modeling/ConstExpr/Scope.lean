import ConstExpr.Expr.Basic

/-!
# Declarations and the point of instantiation

A scope resolves the functions and variables that an expression names. A table is the scope of a
finite list of declarations, numbered in the order in which they were added.
-/
namespace ConstExpr

/-- A function declaration. -/
structure FunctionDecl where
  /-- The name of the function. -/
  name : String
  /-- The types of the parameters in order. -/
  parameters : List Ty
  /-- The return type. -/
  returnType : Ty
  /-- The expression that the function returns, absent for a declaration without a definition. -/
  body : Option Expr
  /-- Whether the function may be called in a constant expression. -/
  isConstexpr : Bool
  deriving Inhabited

/-- A variable declaration. -/
structure VariableDecl where
  /-- The name of the variable. -/
  name : String
  /-- The declared type. -/
  type : Ty
  /-- The initializer, if there is one. -/
  initializer : Option Expr
  /-- Whether the variable is declared as a constant expression. -/
  isConstexpr : Bool
  deriving Inhabited

/-- The initializer of a variable that may be used in a constant expression: one declared for it,
or a constant one of integral type. -/
def VariableDecl.constantInitializer? (decl : VariableDecl) : Option Expr :=
  if decl.isConstexpr || decl.type.isConst && decl.type.isIntegral then decl.initializer else none

/-- The variable may be used in a constant expression. -/
def VariableDecl.isUsable (decl : VariableDecl) : Bool := decl.constantInitializer?.isSome

/-- The point of instantiation: what the names of an expression denote. -/
structure Scope where
  /-- The function with the given number. -/
  functionDecl? : FunctionId → Option FunctionDecl
  /-- The variable with the given number. -/
  variableDecl? : VariableId → Option VariableDecl

/-- A list of declarations, each numbered by its place. -/
structure Table where
  /-- The functions in the order in which they were added. -/
  functionDecls : List FunctionDecl
  /-- The variables in the order in which they were added. -/
  variableDecls : List VariableDecl
  deriving Inhabited

namespace Table

/-- The table without declarations. -/
def empty : Table := ⟨[], []⟩

/-- Adds a function, and tells its number. -/
def addFunction (table : Table) (decl : FunctionDecl) : Table × FunctionId :=
  ({ table with functionDecls := table.functionDecls ++ [decl] }, ⟨table.functionDecls.length⟩)

/-- Adds a variable, and tells its number. -/
def addVariable (table : Table) (decl : VariableDecl) : Table × VariableId :=
  ({ table with variableDecls := table.variableDecls ++ [decl] }, ⟨table.variableDecls.length⟩)

/-- The function with the given number. -/
def functionDecl? (table : Table) (id : FunctionId) : Option FunctionDecl :=
  table.functionDecls[id.index]?

/-- The variable with the given number. -/
def variableDecl? (table : Table) (id : VariableId) : Option VariableDecl :=
  table.variableDecls[id.index]?

/-- Gives a function a body, in the place of any it had; there is no answer for an undeclared
function. -/
def setBody (table : Table) (id : FunctionId) (body : Expr) : Option Table :=
  (table.functionDecl? id).map fun decl =>
    { table with functionDecls := table.functionDecls.set id.index { decl with body := some body } }

/-- The functions with their numbers. -/
def numberedFunctions (table : Table) : List (FunctionId × FunctionDecl) :=
  table.functionDecls.zipIdx.map fun entry => (⟨entry.2⟩, entry.1)

/-- The point of instantiation in which exactly the declarations of the table are known. -/
def scope (table : Table) : Scope := ⟨table.functionDecl?, table.variableDecl?⟩

end Table

namespace Scope

/-- The function takes this many arguments. -/
def accepts (scope : Scope) (arity : Nat) (id : FunctionId) : Bool :=
  (scope.functionDecl? id).any fun decl => decl.parameters.length == arity

/-- The only candidate of an overload set that takes this many arguments; there is no answer when
none does or more than one does. -/
def resolve (scope : Scope) (set : OverloadSet) (arity : Nat) : Option FunctionId :=
  match set.candidates.filter (scope.accepts arity) with
  | [function] => some function
  | _ => none

/-- The function that a call of the given callee reaches, once every pack among its arguments has
been expanded. -/
def target (scope : Scope) (callee : Expr) (arguments : List Expr) : Option FunctionId :=
  if arguments.any Expr.isExpansion then none
  else callee.overloadSet?.bind fun set => scope.resolve set arguments.length

/-- The declaration of the function that a call reaches. -/
def targetDecl (scope : Scope) (callee : Expr) (arguments : List Expr) : Option FunctionDecl :=
  (scope.target callee arguments).bind scope.functionDecl?

/-- The initializer to use for a variable in a constant expression. -/
def constantInitializer? (scope : Scope) (id : VariableId) : Option Expr :=
  (scope.variableDecl? id).bind VariableDecl.constantInitializer?

end Scope

end ConstExpr
