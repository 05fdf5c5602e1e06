import GoMend.Syntax.Layout

/-!
# Trees up to positions, and trees that their layout brings back

Where a node stood in its text is no part of what it says.  `unplaced` forgets it, and
`reprints` tells of a tree whether it is free of the nodes that their own layout need not bring
back.
-/

namespace GoMend

namespace Expr

/-! ## Trees without offsets -/

mutual

/-- The expression without the offsets of its names and literals.  Functions and the members of
types keep theirs. -/
def unplaced : Expr → Expr
  | .ident name => .ident { name with offset := none }
  | .literal value => .literal { value with offset := none }
  | .composite type elements multiline =>
      .composite
        (match type with
          | some type => some type.unplaced
          | none => none)
        (unplacedAll elements) multiline
  | .function signature body => .function signature body
  | .paren inner => .paren inner.unplaced
  | .selector base name => .selector base.unplaced { name with offset := none }
  | .index base position => .index base.unplaced position.unplaced
  | .slice base low high max =>
      .slice base.unplaced
        (match low with
          | some low => some low.unplaced
          | none => none)
        (match high with
          | some high => some high.unplaced
          | none => none)
        (match max with
          | some max => some max.unplaced
          | none => none)
  | .assertion base type =>
      .assertion base.unplaced
        (match type with
          | some type => some type.unplaced
          | none => none)
  | .call callee arguments spread => .call callee.unplaced (unplacedAll arguments) spread
  | .star inner => .star inner.unplaced
  | .unary op operand => .unary op operand.unplaced
  | .binary left op right => .binary left.unplaced op right.unplaced
  | .keyValue key value => .keyValue key.unplaced value.unplaced
  | .arrayType length element => .arrayType (unplacedLength length) element.unplaced
  | .mapType key value => .mapType key.unplaced value.unplaced
  | .chanType direction element => .chanType direction element.unplaced
  | .funcType signature => .funcType signature
  | .structType fields => .structType fields
  | .interfaceType methods => .interfaceType methods
  | .variadic element => .variadic element.unplaced
termination_by structural expr => expr

/-- Expressions without offsets. -/
def unplacedAll : List Expr → List Expr
  | [] => []
  | expr :: rest => expr.unplaced :: unplacedAll rest
termination_by structural exprs => exprs

/-- The length of an array without offsets. -/
def unplacedLength : ArrayLength → ArrayLength
  | .slice => .slice
  | .inferred => .inferred
  | .fixed size => .fixed size.unplaced
termination_by structural length => length

end

section

variable (expr : Expr) (rest : List Expr)

theorem unplaced_composite (type : Option Expr) (elements : List Expr) (multiline : Bool) :
    (composite type elements multiline).unplaced =
      .composite (type.map unplaced) (unplacedAll elements) multiline := by
  cases type <;> rfl

theorem unplaced_paren (inner : Expr) : (paren inner).unplaced = .paren inner.unplaced := rfl

theorem unplaced_selector (base : Expr) (name : Ident) :
    (selector base name).unplaced = .selector base.unplaced { name with offset := none } :=
  rfl

theorem unplaced_index (base position : Expr) :
    (index base position).unplaced = .index base.unplaced position.unplaced :=
  rfl

theorem unplaced_slice (base : Expr) (low high max : Option Expr) :
    (slice base low high max).unplaced =
      .slice base.unplaced (low.map unplaced) (high.map unplaced) (max.map unplaced) := by
  cases low <;> cases high <;> cases max <;> rfl

theorem unplaced_assertion (base : Expr) (type : Option Expr) :
    (assertion base type).unplaced = .assertion base.unplaced (type.map unplaced) := by
  cases type <;> rfl

theorem unplaced_call (callee : Expr) (arguments : List Expr) (spread : Bool) :
    (call callee arguments spread).unplaced =
      .call callee.unplaced (unplacedAll arguments) spread :=
  rfl

theorem unplaced_star (inner : Expr) : (star inner).unplaced = .star inner.unplaced := rfl

theorem unplaced_unary (op : UnaryOp) (operand : Expr) :
    (unary op operand).unplaced = .unary op operand.unplaced :=
  rfl

theorem unplaced_binary (left : Expr) (op : BinaryOp) (right : Expr) :
    (binary left op right).unplaced = .binary left.unplaced op right.unplaced :=
  rfl

theorem unplaced_keyValue (key value : Expr) :
    (keyValue key value).unplaced = .keyValue key.unplaced value.unplaced :=
  rfl

theorem unplaced_arrayType (length : ArrayLength) (element : Expr) :
    (arrayType length element).unplaced = .arrayType (unplacedLength length) element.unplaced :=
  rfl

theorem unplaced_mapType (key value : Expr) :
    (mapType key value).unplaced = .mapType key.unplaced value.unplaced :=
  rfl

theorem unplaced_chanType (direction : ChanDirection) (element : Expr) :
    (chanType direction element).unplaced = .chanType direction element.unplaced :=
  rfl

theorem unplacedAll_cons : unplacedAll (expr :: rest) = expr.unplaced :: unplacedAll rest := rfl

theorem unplacedAll_eq_map (exprs : List Expr) : unplacedAll exprs = exprs.map unplaced := by
  induction exprs with
  | nil => rfl
  | cons expr rest ih => rw [unplacedAll_cons, ih, List.map_cons]

theorem unplacedLength_fixed (size : Expr) : unplacedLength (.fixed size) = .fixed size.unplaced :=
  rfl

end

end Expr

/-! ## Files without offsets -/

/-- The comment without its offset. -/
def Comment.unplaced (remark : Comment) : Comment :=
  { remark with offset := none }

/-- The name without its offset. -/
def Ident.unplaced (name : Ident) : Ident :=
  { name with offset := none }

/-- The import without offsets. -/
def ImportSpec.unplaced (spec : ImportSpec) : ImportSpec where
  doc := spec.doc.map .unplaced
  name := spec.name.map .unplaced
  path := { spec.path with offset := none }
  comment := spec.comment.map .unplaced

/-- The entry of constants or variables without offsets. -/
def ValueSpec.unplaced (spec : ValueSpec) : ValueSpec where
  doc := spec.doc.map .unplaced
  names := spec.names.map .unplaced
  type := spec.type.map .unplaced
  values := Expr.unplacedAll spec.values
  comment := spec.comment.map .unplaced

/-- The entry of a type without offsets. -/
def TypeSpec.unplaced (spec : TypeSpec) : TypeSpec where
  doc := spec.doc.map .unplaced
  name := spec.name.unplaced
  isAlias := spec.isAlias
  type := spec.type.unplaced
  comment := spec.comment.map .unplaced

/-- The entry without offsets. -/
def Spec.unplaced : Spec → Spec
  | .imported spec => .imported spec.unplaced
  | .value spec => .value spec.unplaced
  | .type spec => .type spec.unplaced

/-- The declaration without offsets. -/
def GenDecl.unplaced (group : GenDecl) : GenDecl where
  doc := group.doc.map .unplaced
  keyword := group.keyword
  grouped := group.grouped
  specs := group.specs.map .unplaced
  offset := none

/-- The declaration without offsets, except that functions keep theirs. -/
def Decl.unplaced : Decl → Decl
  | .gen group => .gen group.unplaced
  | .func function => .func function

/-- The file without the offsets of its comments, names and literals.  Functions and the members
of types keep theirs. -/
def File.unplaced (file : File) : File where
  doc := file.doc.map .unplaced
  package := file.package.unplaced
  decls := file.decls.map .unplaced
  trailing := file.trailing.map .unplaced

namespace Expr

/-! ## Layouts that are not brought back -/

/-- Whether the expression is a numeric literal. -/
def isNumeral : Expr → Bool
  | .literal value => value.kind == .int || value.kind == .float || value.kind == .imaginary
  | _ => false

/-- A node that its own layout need not bring back: functions, and types with members, whose
layout has line breaks and comments of its own; a spread argument; a number before a dot; an
address before a complement, which is spelled like the operator of both; and a literal that
was broken across lines without elements. -/
def isFragile : Expr → Bool
  | .function _ _ | .funcType _ | .structType _ | .interfaceType _ => true
  | .call _ _ spread => spread
  | .selector base _ | .assertion base _ => base.isNumeral
  | .unary op operand => op == .address && operand.isUnary .xor
  | .composite _ elements multiline => multiline && elements.isEmpty
  | _ => false

mutual

/-- Whether no node of the expression is fragile. -/
def reprints : Expr → Bool
  | .ident _ => true
  | .literal _ => true
  | .composite type elements multiline =>
      !(composite type elements multiline).isFragile &&
        (match type with
          | some type => type.reprints
          | none => true) &&
        reprintAll elements
  | .function signature body => !(function signature body).isFragile
  | .paren inner => inner.reprints
  | .selector base name => !(selector base name).isFragile && base.reprints
  | .index base position => base.reprints && position.reprints
  | .slice base low high max =>
      base.reprints &&
        (match low with
          | some low => low.reprints
          | none => true) &&
        (match high with
          | some high => high.reprints
          | none => true) &&
        (match max with
          | some max => max.reprints
          | none => true)
  | .assertion base type =>
      !(assertion base type).isFragile && base.reprints &&
        (match type with
          | some type => type.reprints
          | none => true)
  | .call callee arguments spread =>
      !(call callee arguments spread).isFragile && callee.reprints && reprintAll arguments
  | .star inner => inner.reprints
  | .unary op operand => !(unary op operand).isFragile && operand.reprints
  | .binary left _ right => left.reprints && right.reprints
  | .keyValue key value => key.reprints && value.reprints
  | .arrayType length element => lengthReprints length && element.reprints
  | .mapType key value => key.reprints && value.reprints
  | .chanType _ element => element.reprints
  | .funcType signature => !(funcType signature).isFragile
  | .structType fields => !(structType fields).isFragile
  | .interfaceType methods => !(interfaceType methods).isFragile
  | .variadic element => element.reprints
termination_by structural expr => expr

/-- Whether no node of the expressions is fragile. -/
def reprintAll : List Expr → Bool
  | [] => true
  | expr :: rest => expr.reprints && reprintAll rest
termination_by structural exprs => exprs

/-- Whether no node of the length of an array is fragile. -/
def lengthReprints : ArrayLength → Bool
  | .slice => true
  | .inferred => true
  | .fixed size => size.reprints
termination_by structural length => length

end

section

variable {left right expr : Expr} {rest : List Expr}

theorem reprints_composite {type : Option Expr} {elements : List Expr} {multiline : Bool} :
    (composite type elements multiline).reprints = true ↔
      (multiline = true → elements ≠ []) ∧ (∀ e ∈ type, e.reprints = true) ∧
        reprintAll elements = true := by
  have unfolded : (composite type elements multiline).reprints =
      (!(multiline && elements.isEmpty) && type.all reprints && reprintAll elements) := by
    cases type <;> rfl
  rw [unfolded]
  cases type <;> cases multiline <;> cases elements <;> simp

theorem reprints_selector {base : Expr} {name : Ident} :
    (selector base name).reprints = (!base.isNumeral && base.reprints) :=
  rfl

theorem reprints_index {base position : Expr} :
    (index base position).reprints = (base.reprints && position.reprints) :=
  rfl

theorem reprints_slice {base : Expr} {low high max : Option Expr} :
    (slice base low high max).reprints =
      (base.reprints && low.all reprints && high.all reprints && max.all reprints) := by
  cases low <;> cases high <;> cases max <;> rfl

theorem reprints_assertion {base : Expr} {type : Option Expr} :
    (assertion base type).reprints =
      (!base.isNumeral && base.reprints && type.all reprints) := by
  cases type <;> rfl

theorem reprints_call {callee : Expr} {arguments : List Expr} {spread : Bool} :
    (call callee arguments spread).reprints =
      (!spread && callee.reprints && reprintAll arguments) :=
  rfl

theorem reprints_unary {op : UnaryOp} {operand : Expr} :
    (unary op operand).reprints =
      (!(op == .address && operand.isUnary .xor) && operand.reprints) :=
  rfl

theorem reprints_binary {op : BinaryOp} :
    (binary left op right).reprints = (left.reprints && right.reprints) :=
  rfl

theorem reprints_keyValue {key value : Expr} :
    (keyValue key value).reprints = (key.reprints && value.reprints) :=
  rfl

theorem reprints_arrayType {length : ArrayLength} {element : Expr} :
    (arrayType length element).reprints = (lengthReprints length && element.reprints) :=
  rfl

theorem reprints_mapType {key value : Expr} :
    (mapType key value).reprints = (key.reprints && value.reprints) :=
  rfl

theorem reprintAll_cons : reprintAll (expr :: rest) = (expr.reprints && reprintAll rest) := rfl

end

end Expr

end GoMend
