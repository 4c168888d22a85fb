import ConstExpr.Proofs.Text.Terms
import ConstExpr.Proofs.Tree
import ConstExpr.Text.Request

/-!
# Trees, tables and requests are read back

A tree that was put together node by node is read back from its serialized form: the node that is
read takes over the template definition that was written, which is the one it had, and a node
written without one has no children that could leave theirs to it (`Expr.roundTrips`). So are the
declarations around a tree and whole requests.
-/
namespace ConstExpr

open Serialized

section Trees

/-- The numbers in the overload set fit their fields. -/
structure OverloadSet.FitsText (set : OverloadSet) : Prop where
  /-- The numbers of the candidates fit. -/
  candidates : ∀ function ∈ set.candidates, function.Fits
  /-- The numbers in the template arguments fit. -/
  arguments : ∀ arguments ∈ set.templateArguments, ∀ argument ∈ arguments, argument.FitsText

/-- The numbers in the form, without those in its children, fit their fields. -/
def Form.FitsText {α : Type} : Form α → Prop
  | fixed type value _ => type.FitsText ∧ value.FitsText
  | templateRef parameter type => parameter.id.FitsText ∧ type.FitsText
  | parameterRef position type _ => position < sizeBound ∧ type.FitsText
  | variableRef id type => id.Fits ∧ type.FitsText
  | typeTrait _ type | construct type _ => type.FitsText
  | overloads set => set.FitsText
  | unary _ _ | binary _ _ _ | conditional _ _ _ | comma _ | call _ _ | braced _ | expansion _ =>
    True

/-- The numbers in the tree fit their fields. -/
inductive Expr.FitsText : Expr → Prop where
  | node {form : Form Expr} {template : Option TemplateId} : form.FitsText →
      (∀ id ∈ template, id.Fits) → (∀ child ∈ form.children, FitsText child) →
      FitsText (.node form template)

/-- A node that is put together of trees that fit does, with the template definition that it takes
over from them. -/
theorem Expr.FitsText.build {form : Form Expr} {template : Option TemplateId}
    (fits : form.FitsText) (given : ∀ id ∈ template, id.Fits)
    (children : ∀ child ∈ form.children, child.FitsText) :
    (Expr.build template form).FitsText := by
  refine .node fits (fun id kept => ?_) children
  cases template with
  | some own => exact given id kept
  | none =>
    obtain ⟨child, member, inherited⟩ := List.exists_of_findSome?_eq_some kept
    cases children child member with
    | node _ own _ => exact own id inherited

/-- The fields of an overload set are read back. -/
theorem OverloadSet.fieldsReadBack {set : OverloadSet} (fits : set.FitsText) {limit : Nat} :
    FieldsReadBack limit ofFields?
      [("candidates", toDatum set.candidates), ("name", toDatum set.name),
        ("template_arguments", toDatum set.templateArguments)] set := by
  have candidates : RoundTrips set.candidates :=
    .list fun function member => FunctionId.roundTrips (fits.candidates function member)
  have arguments : RoundTrips set.templateArguments :=
    .option fun arguments given => .list fun argument member =>
      TemplateArgument.roundTrips (fits.arguments arguments given argument member)
  refine .required ?_ (candidates _) (by decide) (by simp)
  refine .required ?_ (roundTrips_text _ _) (by decide) (by simp)
  refine .defaulted ?_ (arguments _) (by decide) (by simp) none
  exact fieldsReadBack_pure set

/-- The serialized forms of trees in order are those of each. -/
theorem Expr.toDatumAll_eq (exprs : List Expr) : toDatumAll exprs = exprs.map toDatum := by
  induction exprs with
  | nil => rfl
  | cons expr exprs ih => rw [toDatumAll, ih, List.map_cons]

/-- A form is read back when its children are. -/
theorem Form.readsBack {child : Decoder Expr} {form : Form Expr} {limit : Nat}
    (fits : form.FitsText)
    (children : ∀ expr ∈ form.children, ReadsBack limit child expr.toDatum expr) :
    ReadsBack limit (ofDatum? child) (Expr.formDatum form) form := by
  have within (expr : Expr) (member : expr ∈ form.children) :
      ReadsBack (limit - 1 - 1) child expr.toDatum expr :=
    (children expr member).mono (by omega)
  have list {exprs : List Expr} (members : ∀ expr ∈ exprs, expr ∈ form.children) :
      ReadsBack (limit - 1 - 1) (.list child) (.list (Expr.toDatumAll exprs)) exprs := by
    rw [Expr.toDatumAll_eq]
    exact .list fun expr member => (children expr (members expr member)).mono (by omega)
  cases form with
  | fixed type value category =>
    refine .holding ?_ (List.cons_ne_nil _ _) (by decide) fun _ _ => rfl
    refine .required ?_ (Ty.roundTrips fits.1 _) (by decide) (by simp)
    refine .required ?_ (Value.roundTrips fits.2 _) (by decide) (by simp)
    refine .required ?_ (category.roundTrips _) (by decide) (by simp)
    exact fieldsReadBack_pure _
  | templateRef parameter type =>
    refine .item (.fields ?_ (List.cons_ne_nil _ _) (by decide) fun _ _ => rfl) (by decide)
      fun _ _ => rfl
    refine .required ?_ (TemplateParameter.roundTrips fits.1 _) (by decide) (by simp)
    refine .required ?_ (Ty.roundTrips fits.2 _) (by decide) (by simp)
    exact fieldsReadBack_pure _
  | parameterRef position type isPack =>
    refine .item (.fields ?_ (List.cons_ne_nil _ _) (by decide) fun _ _ => rfl) (by decide)
      fun _ _ => rfl
    refine .required ?_ (readsBack_size fits.1) (by decide) (by simp)
    refine .required ?_ (Ty.roundTrips fits.2 _) (by decide) (by simp)
    refine .required ?_ (roundTrips_bool isPack _) (by decide) (by simp)
    exact fieldsReadBack_pure _
  | variableRef id type =>
    refine .item (.fields ?_ (List.cons_ne_nil _ _) (by decide) fun _ _ => rfl) (by decide)
      fun _ _ => rfl
    refine .required ?_ (VariableId.roundTrips fits.1 _) (by decide) (by simp)
    refine .required ?_ (Ty.roundTrips fits.2 _) (by decide) (by simp)
    exact fieldsReadBack_pure _
  | unary operator operand =>
    refine .holding ?_ (List.cons_ne_nil _ _) (by decide) fun _ _ => rfl
    refine .required ?_ (operator.roundTrips _) (by decide) (by simp)
    refine .required ?_ (within operand (by simp [Form.children])) (by decide) (by simp)
    exact fieldsReadBack_pure _
  | binary operator left right =>
    refine .holding ?_ (List.cons_ne_nil _ _) (by decide) fun _ _ => rfl
    refine .required ?_ (operator.roundTrips _) (by decide) (by simp)
    refine .required ?_ (within left (by simp [Form.children])) (by decide) (by simp)
    refine .required ?_ (within right (by simp [Form.children])) (by decide) (by simp)
    exact fieldsReadBack_pure _
  | typeTrait operator type =>
    refine .holding ?_ (List.cons_ne_nil _ _) (by decide) fun _ _ => rfl
    refine .required ?_ (operator.roundTrips _) (by decide) (by simp)
    refine .required ?_ (Ty.roundTrips fits _) (by decide) (by simp)
    exact fieldsReadBack_pure _
  | conditional condition positive negative =>
    refine .holding ?_ (List.cons_ne_nil _ _) (by decide) fun _ _ => rfl
    refine .required ?_ (within condition (by simp [Form.children])) (by decide) (by simp)
    refine .required ?_ (within positive (by simp [Form.children])) (by decide) (by simp)
    refine .required ?_ (within negative (by simp [Form.children])) (by decide) (by simp)
    exact fieldsReadBack_pure _
  | comma operands =>
    refine .holding ?_ (List.cons_ne_nil _ _) (by decide) fun _ _ => rfl
    refine .required ?_ (list fun _ member => member) (by decide) (by simp)
    exact fieldsReadBack_pure _
  | call callee arguments =>
    refine .holding ?_ (List.cons_ne_nil _ _) (by decide) fun _ _ => rfl
    refine .required ?_ (within callee List.mem_cons_self) (by decide) (by simp)
    refine .required ?_ (list fun _ member => List.mem_cons_of_mem callee member) (by decide)
      (by simp)
    exact fieldsReadBack_pure _
  | overloads set =>
    refine .holding ?_ (List.cons_ne_nil _ _) (by decide) fun _ _ => rfl
    exact (OverloadSet.fieldsReadBack fits).map overloads
  | braced clauses =>
    refine .holding ?_ (List.cons_ne_nil _ _) (by decide) fun _ _ => rfl
    refine .required ?_ (list fun _ member => member) (by decide) (by simp)
    exact fieldsReadBack_pure _
  | construct type arguments =>
    refine .holding ?_ (List.cons_ne_nil _ _) (by decide) fun _ _ => rfl
    refine .required ?_ (Ty.roundTrips fits _) (by decide) (by simp)
    refine .required ?_ (list fun _ member => member) (by decide) (by simp)
    exact fieldsReadBack_pure _
  | expansion pattern =>
    refine .holding ?_ (List.cons_ne_nil _ _) (by decide) fun _ _ => rfl
    refine .required ?_ (within pattern List.mem_cons_self) (by decide) (by simp)
    exact fieldsReadBack_pure _

/-- A tree that was put together node by node is read back within as many trees inside one another
as there may be levels. -/
theorem Expr.readsBack {expr : Expr} (built : expr.Built) (fits : expr.FitsText) (depth : Nat) :
    ReadsBack depth (ofDatumWithin depth) expr.toDatum expr := by
  induction fits generalizing depth with
  | @node form template formFits templateFits _ ih =>
    obtain ⟨children, inherits⟩ := built_node.mp built
    have same : build template form = node form template := by
      cases template with
      | some id => rfl
      | none =>
        have none : form.children.findSome? Expr.template = none :=
          List.findSome?_eq_none_iff.mpr (inherits rfl)
        rw [build, none]
        rfl
    refine .within (fun depth => ?_) rfl depth
    refine .record ?_ (List.cons_ne_nil _ _) "Node"
    refine .required ?_ (Form.readsBack formFits fun child member =>
      ih child member (children child member) depth) (by decide) (by simp)
    have definition : RoundTrips template :=
      .option fun id given => TemplateId.roundTrips (templateFits id given)
    refine .defaulted ?_ (definition _) (by decide) (by simp) none
    rw [same]
    exact fieldsReadBack_pure _

/-- Trees that were put together node by node are read back. -/
theorem Expr.roundTrips {expr : Expr} (built : expr.Built) (fits : expr.FitsText) :
    RoundTrips expr :=
  fun _ => .atPlace (readsBack built fits)

end Trees

section Requests

/-- The numbers in the declaration fit their fields, and its body was put together node by node. -/
structure FunctionDecl.FitsText (decl : FunctionDecl) : Prop where
  /-- The numbers in the types of the parameters fit. -/
  parameters : ∀ type ∈ decl.parameters, type.FitsText
  /-- The numbers in the return type fit. -/
  returnType : decl.returnType.FitsText
  /-- The body is a tree that fits. -/
  body : ∀ body ∈ decl.body, body.Built ∧ body.FitsText

/-- The numbers in the declaration fit their fields, and its initializer was put together node by
node. -/
structure VariableDecl.FitsText (decl : VariableDecl) : Prop where
  /-- The numbers in the type fit. -/
  type : decl.type.FitsText
  /-- The initializer is a tree that fits. -/
  initializer : ∀ initializer ∈ decl.initializer, initializer.Built ∧ initializer.FitsText

/-- The declarations fit. -/
structure Table.FitsText (table : Table) : Prop where
  /-- The functions fit. -/
  functionDecls : ∀ decl ∈ table.functionDecls, decl.FitsText
  /-- The variables fit. -/
  variableDecls : ∀ decl ∈ table.variableDecls, decl.FitsText

/-- The request is one of terms that fit. -/
structure Request.FitsText (request : Request) : Prop where
  /-- The declarations fit. -/
  table : request.table.FitsText
  /-- The template arguments fit. -/
  arguments : request.arguments.FitsText
  /-- The expression was put together node by node. -/
  built : request.expression.Built
  /-- The numbers in the expression fit. -/
  expression : request.expression.FitsText
  /-- The span is one of positions. -/
  span : request.span.start < sizeBound ∧ request.span.stop < sizeBound
  /-- The limits are sizes. -/
  limits : request.limits.steps < sizeBound ∧ request.limits.depth < sizeBound

/-- Declarations of functions are read back. -/
theorem FunctionDecl.roundTrips {decl : FunctionDecl} (fits : decl.FitsText) :
    RoundTrips decl := by
  intro limit
  have parameters : RoundTrips decl.parameters :=
    .list fun type member => Ty.roundTrips (fits.parameters type member)
  have body : RoundTrips decl.body :=
    .option fun body given => Expr.roundTrips (fits.body body given).1 (fits.body body given).2
  refine .record ?_ (List.cons_ne_nil _ _) "Function"
  refine .required ?_ (roundTrips_text _ _) (by decide) (by simp)
  refine .required ?_ (parameters _) (by decide) (by simp)
  refine .required ?_ (Ty.roundTrips fits.returnType _) (by decide) (by simp)
  refine .defaulted ?_ (body _) (by decide) (by simp) none
  refine .defaulted ?_ (roundTrips_bool _ _) (by decide) (by simp) false
  exact fieldsReadBack_pure decl

/-- Declarations of variables are read back. -/
theorem VariableDecl.roundTrips {decl : VariableDecl} (fits : decl.FitsText) :
    RoundTrips decl := by
  intro limit
  have initializer : RoundTrips decl.initializer := .option fun initializer given =>
    Expr.roundTrips (fits.initializer initializer given).1 (fits.initializer initializer given).2
  refine .record ?_ (List.cons_ne_nil _ _) "Variable"
  refine .required ?_ (roundTrips_text _ _) (by decide) (by simp)
  refine .required ?_ (Ty.roundTrips fits.type _) (by decide) (by simp)
  refine .defaulted ?_ (initializer _) (by decide) (by simp) none
  refine .defaulted ?_ (roundTrips_bool _ _) (by decide) (by simp) false
  exact fieldsReadBack_pure decl

/-- Tables are read back. -/
theorem Table.roundTrips {table : Table} (fits : table.FitsText) : RoundTrips table := by
  intro limit
  have functionDecls : RoundTrips table.functionDecls :=
    .list fun decl member => FunctionDecl.roundTrips (fits.functionDecls decl member)
  have variableDecls : RoundTrips table.variableDecls :=
    .list fun decl member => VariableDecl.roundTrips (fits.variableDecls decl member)
  refine .record ?_ (List.cons_ne_nil _ _) "Table"
  refine .defaulted ?_ (functionDecls _) (by decide) (by simp) []
  refine .defaulted ?_ (variableDecls _) (by decide) (by simp) []
  exact fieldsReadBack_pure table

/-- Spans are read back. -/
theorem Span.roundTrips {span : Span} (start : span.start < sizeBound)
    (stop : span.stop < sizeBound) : RoundTrips span := by
  intro limit
  refine .record ?_ (List.cons_ne_nil _ _) "Span"
  refine .required ?_ (readsBack_size start) (by decide) (by simp)
  refine .required ?_ (readsBack_size stop) (by decide) (by simp)
  exact fieldsReadBack_pure span

/-- Limits are read back. -/
theorem Limits.roundTrips {limits : Limits} (steps : limits.steps < sizeBound)
    (depth : limits.depth < sizeBound) : RoundTrips limits := by
  intro limit
  refine .record ?_ (List.cons_ne_nil _ _) "Config"
  refine .defaulted ?_ (readsBack_size steps) (by decide) (by simp) _
  refine .defaulted ?_ (readsBack_size depth) (by decide) (by simp) _
  exact fieldsReadBack_pure limits

/-- Requests are read back. -/
theorem Request.roundTrips {request : Request} (fits : request.FitsText) : RoundTrips request := by
  intro limit
  refine .record ?_ (List.cons_ne_nil _ _) "Request"
  refine .defaulted ?_ (Table.roundTrips fits.table _) (by decide) (by simp) _
  refine .defaulted ?_ (Substitution.roundTrips fits.arguments _) (by decide) (by simp) _
  refine .required ?_ (Expr.roundTrips fits.built fits.expression _) (by decide) (by simp)
  refine .defaulted ?_ (Span.roundTrips fits.span.1 fits.span.2 _) (by decide) (by simp) _
  refine .defaulted ?_ (Limits.roundTrips fits.limits.1 fits.limits.2 _) (by decide) (by simp) _
  exact fieldsReadBack_pure request

end Requests

end ConstExpr
