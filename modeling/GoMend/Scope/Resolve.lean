import GoMend.Scope.Imports
import GoMend.Scope.Package

/-!
# Resolving names

Every name that a file uses is looked up: in the open block scopes, among the
imports of the file, in the package and among the predeclared names.  Resolution
visits the file in source order, opens and closes scopes on the way, and stops at
the first use of a name that is declared nowhere.  How the keys of a composite literal
are to be read depends on its type: type names are followed to what they were declared
as, a bounded number of times.
-/

namespace GoMend

/-- What the type of a composite literal says about its elements. -/
inductive Shape where
  /-- Keys are field names. -/
  | struct
  /-- Keys and values are expressions of the given types. -/
  | map (key value : Expr)
  /-- Keys are positions. -/
  | array (element : Expr)
  | unknown

namespace Shape

/-- The type of an element that is a literal without a type of its own. -/
def element? : Shape → Option Expr
  | .map _ value => some value
  | .array element => some element
  | .struct | .unknown => none

/-- The type of a key that is a literal without a type of its own. -/
def key? : Shape → Option Expr
  | .map key _ => some key
  | .struct | .array _ | .unknown => none

/-- How often a type is followed to another one. -/
def maxSteps : Nat :=
  16

/-- The shape of a type.  `declared?` tells what a type name was declared as. -/
def ofType (declared? : String → Option Expr) : Nat → Expr → Shape
  | 0, _ => .unknown
  | _ + 1, .structType _ => .struct
  | _ + 1, .mapType key value => .map key value
  | _ + 1, .arrayType _ element => .array element
  | steps + 1, .paren inner => ofType declared? steps inner
  | steps + 1, .star inner => ofType declared? steps inner
  | steps + 1, .ident name =>
      match declared? name.name with
      | some type => ofType declared? steps type
      | none => .unknown
  | _ + 1, _ => .unknown

/-- Whether the key of an element is resolved as an expression: field names are
not, and neither is a plain name that might be one. -/
def resolvesKey : Shape → Expr → Bool
  | .struct, _ => false
  | .unknown, .ident _ => false
  | _, _ => true

end Shape

/-- A use of a name that is declared nowhere. -/
structure Unresolved where
  name : String
  offset : Option Nat
  deriving DecidableEq, Repr

/-- The names that are visible everywhere in a file. -/
structure FileNames where
  package : PackageScope
  imports : FileScope

namespace FileNames

/-- Whether a name is declared outside the block scopes. -/
def contains (names : FileNames) (name : String) : Bool :=
  names.imports.contains name || names.package.contains name || predeclared.contains name

end FileNames

/-- A step of resolution: it changes the open scopes or stops. -/
abbrev Resolution := StateT LocalScopes (Except Unresolved) Unit

namespace Resolution

/-- Declare a name in the innermost scope. -/
def declare (ident : Ident) : Resolution :=
  modify (·.declare ident)

/-- Declare names in the innermost scope. -/
def declareAll (idents : List Ident) : Resolution :=
  modify (·.declareAll idents)

/-- Run a step in a scope of its own. -/
def inScope (step : Resolution) : Resolution := do
  modify LocalScopes.push
  step
  modify LocalScopes.pop

/-- Look up the use of a name.  A qualified name is resolved by its package part,
and the blank name is no use. -/
def use (names : FileNames) (ident : Ident) : Resolution := do
  let locals ← get
  if ident.isBlank || locals.contains ident.headName || names.contains ident.headName then
    return
  else
    throw { name := ident.headName, offset := ident.offset }

/-- What a type name stands for at a place with the given open scopes. -/
def declaredType? (names : FileNames) (locals : LocalScopes) (name : String) :
    Option Expr :=
  if locals.contains name then none else names.package.declaredType? name

/-- The shape of a literal by its own type, or by the hint if it has none. -/
def shape (names : FileNames) (locals : LocalScopes) (type hint : Option Expr) : Shape :=
  match type.or hint with
  | some type => Shape.ofType (declaredType? names locals) Shape.maxSteps type
  | none => .unknown

end Resolution

open Resolution

mutual

/-- Resolve an expression or a type.  The hint is the type that a composite literal
without a type of its own stands for. -/
def Expr.resolve (names : FileNames) (hint : Option Expr) : Expr → Resolution
  | .ident name => use names name
  | .literal _ => pure ()
  | .composite type elements _ => do
      match type with
      | some type => type.resolve names none
      | none => pure ()
      let locals ← get
      Expr.resolveElements names (shape names locals type hint) elements
  | .function signature body =>
      inScope do
        signature.resolve names
        body.resolveStmts names
  | .paren inner => inner.resolve names none
  | .selector base _ => base.resolve names none
  | .index base position => do
      base.resolve names none
      position.resolve names none
  | .slice base low high max => do
      base.resolve names none
      match low with
      | some low => low.resolve names none
      | none => pure ()
      match high with
      | some high => high.resolve names none
      | none => pure ()
      match max with
      | some max => max.resolve names none
      | none => pure ()
  | .assertion base type => do
      base.resolve names none
      match type with
      | some type => type.resolve names none
      | none => pure ()
  | .call callee arguments _ => do
      callee.resolve names none
      Expr.resolveAll names arguments
  | .star inner => inner.resolve names none
  | .unary _ operand => operand.resolve names none
  | .binary left _ right => do
      left.resolve names none
      right.resolve names none
  | .keyValue key value => do
      key.resolve names none
      value.resolve names none
  | .arrayType length element => do
      length.resolve names
      element.resolve names none
  | .mapType key value => do
      key.resolve names none
      value.resolve names none
  | .chanType _ element => element.resolve names none
  | .funcType signature => signature.resolveTypes names
  | .structType fields => fields.resolveTypes names
  | .interfaceType methods => methods.resolveTypes names
  | .variadic element => element.resolve names none
termination_by structural expr => expr

/-- Resolve expressions in order. -/
def Expr.resolveAll (names : FileNames) : List Expr → Resolution
  | [] => pure ()
  | expr :: rest => do
      expr.resolve names none
      Expr.resolveAll names rest
termination_by structural exprs => exprs

/-- Resolve the elements of a composite literal of the given shape. -/
def Expr.resolveElements (names : FileNames) (shape : Shape) : List Expr → Resolution
  | [] => pure ()
  | .keyValue key value :: rest => do
      if shape.resolvesKey key then key.resolve names shape.key? else pure ()
      value.resolve names shape.element?
      Expr.resolveElements names shape rest
  | element :: rest => do
      element.resolve names shape.element?
      Expr.resolveElements names shape rest
termination_by structural exprs => exprs

/-- Resolve the targets of a short declaration: names are declared, anything else
is resolved. -/
def Expr.resolveTargets (names : FileNames) : List Expr → Resolution
  | [] => pure ()
  | .ident name :: rest => do
      declare name
      Expr.resolveTargets names rest
  | target :: rest => do
      target.resolve names none
      Expr.resolveTargets names rest
termination_by structural exprs => exprs

/-- Resolve the length of an array type. -/
def ArrayLength.resolve (names : FileNames) : ArrayLength → Resolution
  | .slice => pure ()
  | .inferred => pure ()
  | .fixed size => size.resolve names none
termination_by structural length => length

/-- Resolve the types of fields; the names of fields are no uses. -/
def Field.resolveTypes (names : FileNames) : List Field → Resolution
  | [] => pure ()
  | ⟨_, _, type, _, _⟩ :: rest => do
      type.resolve names none
      Field.resolveTypes names rest
termination_by structural fields => fields

/-- Resolve the types of a bracketed list of fields. -/
def FieldList.resolveTypes (names : FileNames) : FieldList → Resolution
  | ⟨fields, _⟩ => Field.resolveTypes names fields
termination_by structural list => list

/-- Resolve the types of parameters and results. -/
def Signature.resolveTypes (names : FileNames) : Signature → Resolution
  | ⟨params, results⟩ => do
      params.resolveTypes names
      match results with
      | some results => results.resolveTypes names
      | none => pure ()
termination_by structural signature => signature

/-- Resolve the types of parameters and results, then declare their names. -/
def Signature.resolve (names : FileNames) : Signature → Resolution
  | ⟨params, results⟩ => do
      params.resolveTypes names
      match results with
      | some results => results.resolveTypes names
      | none => pure ()
      declareAll (params.fields.flatMap (·.names))
      match results with
      | some results => declareAll (results.fields.flatMap (·.names))
      | none => pure ()
termination_by structural signature => signature

/-- Resolve the entries of a declaration.  Inside a function a value is visible
behind its entry and a type already within it; at top level both are in the scope
of the package. -/
def Spec.resolveAll (names : FileNames) (isLocal : Bool) : List Spec → Resolution
  | [] => pure ()
  | .imported _ :: rest => Spec.resolveAll names isLocal rest
  | .value ⟨_, idents, declared, values, _⟩ :: rest => do
      match declared with
      | some declared => declared.resolve names none
      | none => pure ()
      Expr.resolveAll names values
      if isLocal then declareAll idents else pure ()
      Spec.resolveAll names isLocal rest
  | .type ⟨_, name, _, declared, _⟩ :: rest => do
      if isLocal then declare name else pure ()
      declared.resolve names none
      Spec.resolveAll names isLocal rest
termination_by structural specs => specs

/-- Resolve a declaration. -/
def GenDecl.resolve (names : FileNames) (isLocal : Bool) : GenDecl → Resolution
  | ⟨_, _, _, specs, _⟩ => Spec.resolveAll names isLocal specs
termination_by structural decl => decl

/-- Resolve the statements of a block in the scope that is open. -/
def Block.resolveStmts (names : FileNames) : Block → Resolution
  | ⟨stmts, _⟩ => Stmt.resolveAll names stmts
termination_by structural block => block

/-- Resolve a block in a scope of its own. -/
def Block.resolve (names : FileNames) : Block → Resolution
  | ⟨stmts, _⟩ => inScope (Stmt.resolveAll names stmts)
termination_by structural block => block

/-- Resolve statements in order. -/
def Stmt.resolveAll (names : FileNames) : List Stmt → Resolution
  | [] => pure ()
  | stmt :: rest => do
      stmt.resolve names
      Stmt.resolveAll names rest
termination_by structural stmts => stmts

/-- Resolve a statement. -/
def Stmt.resolve (names : FileNames) : Stmt → Resolution
  | ⟨_, kind, _⟩ => kind.resolve names
termination_by structural stmt => stmt

/-- Resolve a statement without its comments.  Labels are no uses. -/
def StmtKind.resolve (names : FileNames) : StmtKind → Resolution
  | .decl decl => decl.resolve names true
  | .empty => pure ()
  | .branch _ _ => pure ()
  | .labeled _ stmt => stmt.resolve names
  | .expr expr => expr.resolve names none
  | .go call => call.resolve names none
  | .defer call => call.resolve names none
  | .send channel value => do
      channel.resolve names none
      value.resolve names none
  | .incDec operand _ => operand.resolve names none
  | .assign targets op values =>
      if op = .define then do
        Expr.resolveAll names values
        Expr.resolveTargets names targets
      else do
        Expr.resolveAll names targets
        Expr.resolveAll names values
  | .ret results => Expr.resolveAll names results
  | .block block => block.resolve names
  | .conditional init condition body alternative =>
      inScope do
        match init with
        | some init => init.resolve names
        | none => pure ()
        condition.resolve names none
        body.resolve names
        match alternative with
        | some alternative => alternative.resolve names
        | none => pure ()
  | .switch init tag clauses =>
      inScope do
        match init with
        | some init => init.resolve names
        | none => pure ()
        match tag with
        | some tag => tag.resolve names none
        | none => pure ()
        CaseClause.resolveAll names none clauses
  | .typeSwitch init binding subject clauses =>
      inScope do
        match init with
        | some init => init.resolve names
        | none => pure ()
        subject.resolve names none
        CaseClause.resolveAll names binding clauses
  | .select clauses => CommClause.resolveAll names clauses
  | .loop init condition post body =>
      inScope do
        match init with
        | some init => init.resolve names
        | none => pure ()
        match condition with
        | some condition => condition.resolve names none
        | none => pure ()
        match post with
        | some post => post.resolve names
        | none => pure ()
        body.resolve names
  | .range key value define subject body =>
      inScope do
        subject.resolve names none
        match key with
        | some (.ident name) => if define then declare name else use names name
        | some key => key.resolve names none
        | none => pure ()
        match value with
        | some (.ident name) => if define then declare name else use names name
        | some value => value.resolve names none
        | none => pure ()
        body.resolve names
termination_by structural kind => kind

/-- Resolve the clauses of a switch, each in a scope of its own.  The binding of a
type switch is visible in the bodies. -/
def CaseClause.resolveAll (names : FileNames) (binding : Option Ident) :
    List CaseClause → Resolution
  | [] => pure ()
  | ⟨_, list, body⟩ :: rest => do
      inScope do
        match list with
        | some list => Expr.resolveAll names list
        | none => pure ()
        declareAll binding.toList
        Stmt.resolveAll names body
      CaseClause.resolveAll names binding rest
termination_by structural clauses => clauses

/-- Resolve the clauses of a select statement, each in a scope of its own. -/
def CommClause.resolveAll (names : FileNames) : List CommClause → Resolution
  | [] => pure ()
  | ⟨_, comm, body⟩ :: rest => do
      inScope do
        match comm with
        | some comm => comm.resolve names
        | none => pure ()
        Stmt.resolveAll names body
      CommClause.resolveAll names rest
termination_by structural clauses => clauses

end

namespace FuncDecl

/-- The lists of names that a function declares for its body: receiver, parameters
and results. -/
def lists (decl : FuncDecl) : List FieldList :=
  decl.receiver.toList ++ decl.signature.params :: decl.signature.results.toList

/-- Resolve a function or method.  The types of receiver, parameters and results are
resolved before any of their names is visible. -/
def resolve (names : FileNames) (decl : FuncDecl) : Resolution :=
  inScope do
    decl.lists.forM (·.resolveTypes names)
    declareAll (decl.lists.flatMap fun list => list.fields.flatMap (·.names))
    match decl.body with
    | some body => body.resolveStmts names
    | none => pure ()

end FuncDecl

namespace Decl

/-- Resolve a top-level declaration. -/
def resolve (names : FileNames) : Decl → Resolution
  | .gen decl => decl.resolve names false
  | .func decl => decl.resolve names

end Decl

namespace File

/-- The first use of a name that is declared nowhere.  In a file with a dot import
the origin of a name cannot be told, so none is reported. -/
def firstUnresolved? (package : PackageScope) (file : File) : Option Unresolved :=
  let imports := FileScope.ofFile file
  if imports.hasDotImport then none
  else
    match (file.decls.forM (·.resolve { package, imports })).run .empty with
    | .ok _ => none
    | .error unresolved => some unresolved

end File

end GoMend
