import GoMend.Unit.Body
import GoMend.Unit.Structure

/-!
# Wrappers of aggregations

An aggregation struct embeds one of two wrappers.  One that has a field for
aggregations below it embeds the wrapper that manages them, which takes the place
of the field; any other embeds the wrapper that refuses them.  The constructor is
brought into one form, which builds the value, wraps it and returns it.
-/

namespace GoMend

/-- The wrapper that a struct embeds. -/
inductive Wrapper where
  | injectable | notInjectable
  deriving DecidableEq, Repr

namespace Wrapper

/-- The name of the wrapper type. -/
def name : Wrapper → String
  | .injectable => "Injectable"
  | .notInjectable => "NotInjectable"

/-- The function that wraps a value. -/
def constructor : Wrapper → String
  | .injectable => "newInjectable"
  | .notInjectable => "newNotInjectable"

/-- All wrappers, in the order in which they are listed. -/
def all : List Wrapper :=
  [.injectable, .notInjectable]

/-- The field for the aggregations below. -/
def managedField : String :=
  "subAggregations"

/-- The name under which a constructor builds its value. -/
def binding : String :=
  "a"

/-! ## Structs -/

/-- The wrapper that a struct is to embed.  A struct that embeds one keeps it,
unless it has the managed field. -/
def select (spec : TypeSpec) : Wrapper :=
  if spec.hasField managedField || spec.embeds Wrapper.injectable.name then .injectable
  else .notInjectable

/-- Embed the wrapper, unless it is embedded already. -/
def embed (wrapper : Wrapper) (spec : TypeSpec) : TypeSpec :=
  if spec.embeds wrapper.name then spec
  else spec.addField (.embedded (.star (.ofName wrapper.name)))

/-- Embed the wrapper.  The one that manages the field replaces both the field and
the other wrapper. -/
def enrich (wrapper : Wrapper) (spec : TypeSpec) : Except Fault TypeSpec :=
  match wrapper with
  | .notInjectable => .ok (wrapper.embed spec)
  | .injectable =>
      let wrapped := wrapper.embed (spec.removeEmbedded Wrapper.notInjectable.name)
      if wrapped.hasField managedField then wrapped.removeField managedField
      else .ok wrapped

/-! ## Constructors -/

/-- The expression that builds the value which a body returns.  A body that returns
a name has built the value in its first assignment; any other builds it in the
return statement, and there the managed field is left out. -/
def initializer (body : Block) : Except ConstructorFault Expr :=
  match body.firstReturn? with
  | none => .error .noReturn
  | some results =>
      match Expr.firstIdent? results with
      | some _ =>
          match body.firstAssignment? with
          | none => .error .noAssignment
          | some (_, _, .unary op operand :: _) => .ok (.unary op operand)
          | some _ => .error .assignmentNotUnary
      | none =>
          match Expr.firstUnary? results with
          | none => .error .resultNotUnary
          | some (op, .composite type elements multiline) =>
              .ok (.unary op
                (.composite type (Expr.dropKey managedField elements) multiline))
          | some _ => .error .operandNotComposite

/-- The body that builds a value, wraps it and returns it. -/
def body (wrapper : Wrapper) (init : Expr) : Block :=
  { stmts :=
      [.assignTo binding .define init,
       .assignTo (Ident.qualify binding wrapper.name) .assign
         (.callOf wrapper.constructor [binding]),
       .returning [.ofName binding]]
    closing := [] }

/-- Bring a constructor into its form. -/
def normalizeConstructor (wrapper : Wrapper) (decl : FuncDecl) : Except Fault FuncDecl := do
  let present ← decl.demandBody
  match initializer present with
  | .ok init => return decl.withBody (wrapper.body init)
  | .error fault => throw (.constructorShape decl.name.name fault)

end Wrapper

/-! ## Records

What is remembered of a constructor that was brought into its form: the wrapper it
uses and its name. -/

/-- A wrapped constructor. -/
structure Record where
  wrapper : Wrapper
  symbol : String
  deriving DecidableEq, Repr

namespace Record

/-- The written form. -/
def render (record : Record) : String :=
  record.wrapper.name ++ " " ++ record.symbol

end Record

end GoMend
