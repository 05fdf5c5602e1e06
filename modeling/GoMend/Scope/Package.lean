import GoMend.Syntax.Tree

/-!
# Scopes

The names that every file knows, those that the files of a package declare at top level,
and those of the blocks that are open at a place of a function.  Methods are no top-level
names, and neither is the blank name of a constant or variable.
-/

namespace GoMend

/-- The predeclared names: types, constants, the zero value and built-in functions. -/
def predeclared : List String :=
  ["any", "bool", "byte", "comparable", "complex64", "complex128", "error", "float32",
    "float64", "int", "int8", "int16", "int32", "int64", "rune", "string", "uint",
    "uint8", "uint16", "uint32", "uint64", "uintptr",
    "true", "false", "iota", "nil",
    "append", "cap", "clear", "close", "complex", "copy", "delete", "imag", "len",
    "make", "max", "min", "new", "panic", "print", "println", "real", "recover"]

/-- The top-level names of a package, and the types that type names stand for, in
the order of their declarations. -/
structure PackageScope where
  names : List String
  types : List (String × Expr)

namespace PackageScope

/-- The names that an entry declares. -/
def specNames : Spec → List String
  | .imported _ => []
  | .value spec => (spec.names.filter (!·.isBlank)).map (·.name)
  | .type spec => [spec.name.name]

/-- The names that a top-level declaration declares. -/
def declNames : Decl → List String
  | .gen decl => decl.specs.flatMap specNames
  | .func decl => if decl.receiver.isNone then [decl.name.name] else []

/-- The type names of an entry with their types. -/
def specTypes : Spec → List (String × Expr)
  | .type spec => [(spec.name.name, spec.type)]
  | _ => []

/-- The type names of a top-level declaration with their types. -/
def declTypes : Decl → List (String × Expr)
  | .gen decl => decl.specs.flatMap specTypes
  | .func _ => []

/-- The scope of the files of a package. -/
def ofFiles (files : List File) : PackageScope where
  names := files.flatMap fun file => file.decls.flatMap declNames
  types := files.flatMap fun file => file.decls.flatMap declTypes

/-- Whether the package declares the name. -/
def contains (scope : PackageScope) (name : String) : Bool :=
  scope.names.contains name

/-- The type that a type name stands for; of several declarations the last one
counts. -/
def declaredType? (scope : PackageScope) (name : String) : Option Expr :=
  (scope.types.reverse.find? (·.1 == name)).map (·.2)

/-- The number of different names. -/
def size (scope : PackageScope) : Nat :=
  scope.names.eraseDups.length

/-- Whether nothing is declared. -/
def isEmpty (scope : PackageScope) : Bool :=
  scope.names.isEmpty

end PackageScope

/-! ## Local scopes -/

/-- The names of the open scopes, innermost first. -/
structure LocalScopes where
  scopes : List (List String)
  deriving DecidableEq, Repr

namespace LocalScopes

/-- No scope is open. -/
def empty : LocalScopes :=
  ⟨[]⟩

/-- Open a scope. -/
def push (locals : LocalScopes) : LocalScopes :=
  ⟨[] :: locals.scopes⟩

/-- Close the innermost scope, if one is open. -/
def pop (locals : LocalScopes) : LocalScopes :=
  ⟨locals.scopes.tail⟩

/-- Declare a name in the innermost scope.  The blank name is never declared, and
without an open scope nothing is. -/
def declare (ident : Ident) (locals : LocalScopes) : LocalScopes :=
  match locals.scopes with
  | [] => locals
  | scope :: outer =>
      if ident.isBlank then locals else ⟨(ident.name :: scope) :: outer⟩

/-- Declare names in the innermost scope. -/
def declareAll (idents : List Ident) (locals : LocalScopes) : LocalScopes :=
  idents.foldl (fun locals ident => locals.declare ident) locals

/-- Whether an open scope declares the name. -/
def contains (locals : LocalScopes) (name : String) : Bool :=
  locals.scopes.any (·.contains name)

/-- The number of open scopes. -/
def depth (locals : LocalScopes) : Nat :=
  locals.scopes.length

end LocalScopes

end GoMend
